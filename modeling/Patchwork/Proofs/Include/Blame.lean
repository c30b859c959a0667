import Patchwork.Proofs.Include.Cycle
import Patchwork.Proofs.Include.Termination
import Patchwork.Proofs.Source.Null
import Patchwork.Proofs.Text.Lines

/-!
# Who is to blame

Including fails at a directive: one on a line of a source that has been loaded, or on the blank of
one. The error is reported with the span of that directive, or is what the loader fails with for the
source that the directive names (`Fails.blames`). In files that leaves one fault, a null character in
the name of a source, and every span that is reported shows a line that can be looked at
(`channel_of_including`).
-/

namespace Patchwork

open FileSystem (hasNull)

/-- A directive names its source with characters of its line. -/
theorem DirectivePattern.mem_of_mem_target {p : DirectivePattern} {line : String} {dir : Directive}
    (h : p.find line = some dir) {c : Char} (hc : c ∈ dir.target.toList) : c ∈ line.toList := by
  obtain ⟨m, -, rfl⟩ := Option.map_eq_some_iff.1 h
  have hc := Text.mem_of_mem_trim hc
  cases hl : m.captures.lookup p.group with
  | none =>
    simp only [hl] at hc
    cases hc
  | some e =>
    simp only [hl, String.toList_ofList] at hc
    exact (List.drop_sublist _ _).mem ((List.take_sublist _ _).mem hc)

namespace Loader

/-- The directive is on a line of the source at `path`, or on the blank of one. -/
def Directs (load : Loader) (find : String → Option Directive) (path : String) (dir : Directive) :
    Prop :=
  ∃ lines, load path = .ok lines ∧ ∃ x ∈ lines, find x = some dir ∨ find (Text.blank x) = some dir

/-- The span lies on a line of a source that can be loaded. -/
def Shows (load : Loader) (span : Span) : Prop :=
  ∃ lines, load span.file = .ok lines ∧ ∃ x ∈ lines, 0 ≤ span.startCol ∧
    span.startCol ≤ span.endCol + 1 ∧ span.endCol - span.startCol + 1 ≤ x.length ∧
    span.endCol ≤ x.length

variable {load : Loader} {p : DirectivePattern} {path : String} {dir : Directive}

theorem Directs.shows (h : load.Directs p.find path dir) (line : Int) :
    load.Shows (dir.spanAt path line) := by
  obtain ⟨lines, hload, x, hx, hdir⟩ := h
  refine ⟨lines, hload, x, hx, ?_⟩
  rcases hdir with hdir | hdir
  · exact p.columns_of_find hdir
  · have hcolumns := p.columns_of_find hdir
    rwa [Text.length_blank] at hcolumns

/-- A null character in the name of a source is one of the line that names it. -/
theorem Directs.exists_null (h : load.Directs p.find path dir) (hnull : hasNull dir.target = true) :
    ∃ lines, load path = .ok lines ∧ ∃ x ∈ lines, p.find x = some dir := by
  obtain ⟨lines, hload, x, hx, hdir | hdir⟩ := h
  · exact ⟨lines, hload, x, hx, hdir⟩
  · have hmem := p.mem_of_mem_target hdir (List.contains_iff_mem.1 hnull)
    rw [Text.toList_blank] at hmem
    exact absurd (List.eq_of_mem_replicate hmem) (by decide)

end Loader

namespace Scan

open Section

variable {load : Loader} {find : String → Option Directive} {base : Option String}
  {above : Above} {todo : List Section}

theorem directs_of_firstDirective {s : Section} {n : Int} {dir : Directive}
    (h : s.Drawn load fun _ => True) (hf : s.firstDirective find = some (n, dir)) :
    load.Directs find s.path dir := by
  obtain ⟨pre, x, post, hlines, -, -, hdir⟩ := exists_of_firstDirective hf
  obtain ⟨lines, hload, hmem⟩ := h
  rcases hmem x (hlines ▸ List.mem_append_right _ List.mem_cons_self) with hsrc | ⟨y, hy, -, rfl⟩
  · exact ⟨lines, hload, x, hsrc, Or.inl hdir⟩
  · exact ⟨lines, hload, y, hy, Or.inr hdir⟩

/-- **Whatever fails, a directive is to blame.** -/
theorem Fails.blames {e : Error} (h : Fails load find base above todo e)
    (hs : ∀ s ∈ todo, s.Drawn load fun _ => True) : ∃ path line dir, load.Directs find path dir ∧
      ((∃ cause, e = .reported cause (some (dir.spanAt path line))) ∨
        ∃ e', load (sourcePath base dir.target) = .error e' ∧
          e = e'.blaming (dir.spanAt path line)) := by
  induction h with
  | later _ _ ih => exact ih (List.forall_mem_cons.1 hs).2
  | @cyclic above s rest n dir hf _ =>
    exact ⟨s.path, n + s.offset, dir, directs_of_firstDirective (List.forall_mem_cons.1 hs).1 hf,
      Or.inl ⟨_, rfl⟩⟩
  | @refused above s rest n dir e hf _ hopen =>
    refine ⟨s.path, n + s.offset, dir,
      directs_of_firstDirective (List.forall_mem_cons.1 hs).1 hf, ?_⟩
    rcases cause_of_openAt hopen with hload | ⟨cause, -, rfl⟩
    · exact Or.inr ⟨_, hload, rfl⟩
    · exact Or.inl ⟨cause, rfl⟩
  | @inside above s upper source lower rest n dir e hf _ hopen _ ih =>
    refine ih fun t ht => ?_
    obtain rfl := List.mem_singleton.1 ht
    exact .of_load (cut_of_openAt hf hopen).1 _
  | @following above above₁ s upper source lower rest mid n dir e hf _ hopen _ _ ih =>
    obtain ⟨-, pre, x, post, hcut, -, -⟩ := cut_of_openAt hf hopen
    obtain ⟨hdrawn, hrest⟩ := List.forall_mem_cons.1 hs
    exact ih (List.forall_mem_map.2
      (List.forall_mem_cons.2 ⟨hdrawn.remainder hcut trivial _, hrest⟩))

/-- **What including fails with.** Every error has a span that shows the line of a directive, but
for the fault that a directive names a source with a null character in its path. -/
theorem channel_of_including {fs : FileSystem} {d : Document} {p : DirectivePattern} {e : Error}
    (hd : d.Contiguous) (hdrawn : ∀ s ∈ d.sections, s.Drawn fs.load fun _ => True)
    (h : d.including (.ofFiles fs) p.find = .error e) :
    Channel (fun f => f = .access .nullInPath ∧ ∃ path dir, fs.load.Directs p.find path dir ∧
      hasNull (sourcePath d.base dir.target) = true) fs.load.Shows e := by
  rcases outcome_of_ends hd (ends_including (.ofFiles fs) p.find d) with
    ⟨e', he, hfails⟩ | ⟨above, out, hr, -⟩
  · obtain rfl := Except.error.inj (h.symm.trans he)
    obtain ⟨path, line, dir, hdir, ⟨cause, rfl⟩ | ⟨e', hload, rfl⟩⟩ := hfails.blames hdrawn
    · exact .placed (hdir.shows line)
    · rcases FileSystem.load_eq_error hload with ⟨cause, rfl⟩ | ⟨rfl, hnull⟩
      · exact .placed (hdir.shows line)
      · exact .fault ⟨rfl, path, dir, hdir, hnull⟩
  · rw [h] at hr
    cases hr

end Scan

end Patchwork
