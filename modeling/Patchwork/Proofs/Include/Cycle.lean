import Patchwork.Proofs.Document.Located
import Patchwork.Proofs.Include.Walk

/-!
# Cycles

What a scan remembers above a source is shared by all sections of that source, those included that
were there before the scan, and is gathered over everything that has been included. Still it only
holds sources from which the source is reached (`Reached`), so a cycle that is reported is one
(`Fails.real_cycle`). Conversely, where a scan ends with a document, all that its directives lead to
has been unfolded to the end, so nothing it leads to comes back to itself (`Unfolds.acc`).
-/

namespace Patchwork

/-- All that is remembered above a source reaches it. -/
def Reached (load : Loader) (find : String → Option Directive) (base : Option String)
    (above : List (String × List String)) : Prop :=
  ∀ t x, x ∈ Scan.sourcesAbove above t → Relation.TransGen (Names load find base) x t

theorem not_cycle_of_acc {load : Loader} {find : String → Option Directive} {base : Option String}
    {target c : String} (h : Acc (fun t s => Names load find base s t) target)
    (hreach : Relation.ReflTransGen (Names load find base) target c) :
    ¬Relation.TransGen (Names load find base) c c := by
  induction h with
  | intro target _ ih =>
    intro hcycle
    obtain ⟨next, hnext, hrest⟩ :=
      Relation.TransGen.head'_iff.1 (Relation.TransGen.trans_right hreach hcycle)
    exact ih next hnext hrest hcycle

namespace Reached

variable {load : Loader} {find : String → Option Directive} {base : Option String}
  {above : List (String × List String)} {path target x : String}

theorem of_mem_chain (h : Reached load find base above) (hx : x ∈ Scan.chain above path) :
    x = path ∨ Relation.TransGen (Names load find base) x path :=
  (Scan.mem_chain_iff.1 hx).imp_right (h path x)

theorem remember (h : Reached load find base above) (hnames : Names load find base path target) :
    Reached load find base (Scan.remember above target (Scan.chain above path)) := by
  intro t x hx
  rcases Scan.mem_sourcesAbove_remember.1 hx with ⟨rfl, hchain⟩ | hx
  · rcases h.of_mem_chain hchain with rfl | hreach
    · exact .single hnames
    · exact .tail hreach hnames
  · exact h t x hx

end Reached

namespace Scan

open Section

variable {load : Loader} {find : String → Option Directive} {base : Option String}
  {above above' : Above} {todo : List Section}

/-! ## Reported cycles -/

theorem drawn_of_opened {s upper source lower : Section} {rest : List Section} {n : Int}
    {dir : Directive} (hs : ∀ t ∈ s :: rest, t.Drawn load (find · ≠ none))
    (hf : s.firstDirective find = some (n, dir))
    (hopen : s.openAt load (sourcePath base dir.target) n = .ok (upper, source, lower)) (m : Int) :
    Names load find base s.path (sourcePath base dir.target) ∧
      (∀ t ∈ [source.shift (n - 1)], t.Drawn load (find · ≠ none)) ∧
      ∀ t ∈ (lower :: rest).map (·.shift m), t.Drawn load (find · ≠ none) := by
  obtain ⟨hsource, pre, x, post, hcut, -, hx⟩ := cut_of_openAt hf hopen
  obtain ⟨hdrawn, hrest⟩ := List.forall_mem_cons.1 hs
  have hne : find x ≠ none := by
    rw [hx]
    exact Option.some_ne_none _
  refine ⟨hdrawn.names base (hcut.lines ▸ List.mem_append_right _ List.mem_cons_self) hx, ?_, ?_⟩
  · intro t ht
    obtain rfl := List.mem_singleton.1 ht
    exact .of_load hsource _
  · exact List.forall_mem_map.2
      (List.forall_mem_cons.2 ⟨hdrawn.remainder hcut hne m, hrest⟩)

theorem Unfolds.reached {out : List Section} (h : Unfolds load find base above todo above' out)
    (hs : ∀ s ∈ todo, s.Drawn load (find · ≠ none)) (ha : Reached load find base above) :
    Reached load find base above' := by
  induction h with
  | done => exact ha
  | kept _ _ ih => exact ih (List.forall_mem_cons.1 hs).2 ha
  | spliced hf _ hopen _ _ ihin ihout =>
    obtain ⟨hnames, hsource, hlower⟩ := drawn_of_opened hs hf hopen _
    exact ihout hlower (ihin hsource (ha.remember hnames))

theorem cause_of_openAt {s : Section} {path : String} {n : Int} {e : Error}
    (h : s.openAt load path n = .error e) :
    load path = .error e ∨
      ∃ cause, (cause.kind = .construction ∨ cause.kind = .range) ∧ e = .reported cause none := by
  rcases openAt_eq_error.1 h with h | ⟨_, -, hsplit⟩
  · rcases load_eq_error.1 h with hload | ⟨-, rfl⟩
    · exact Or.inl hload
    · exact Or.inr ⟨_, Or.inl rfl, rfl⟩
  · obtain ⟨cause, hkind, rfl⟩ := cause_of_split hsplit
    exact Or.inr ⟨cause, Or.inr hkind, rfl⟩

/-- A cycle is reported by a loader, or it is one. -/
theorem Fails.real_cycle {e : Error} (h : Fails load find base above todo e)
    (hs : ∀ s ∈ todo, s.Drawn load (find · ≠ none)) (ha : Reached load find base above)
    {target path : String} {span : Option Span}
    (he : e = .reported (.cyclicInclude target path) span) :
    (∃ p span', load p = .error (.reported (.cyclicInclude target path) span')) ∨
      Names load find base path target ∧
        (target = path ∨ Relation.TransGen (Names load find base) target path) := by
  induction h with
  | later _ _ ih => exact ih (List.forall_mem_cons.1 hs).2 ha he
  | @cyclic above s rest n dir hf hmem =>
    cases he
    obtain ⟨pre, x, post, hlines, -, -, hx⟩ := exists_of_firstDirective hf
    have hdrawn := (List.forall_mem_cons.1 hs).1
    exact Or.inr ⟨hdrawn.names base (hlines ▸ List.mem_append_right _ List.mem_cons_self) hx,
      ha.of_mem_chain hmem⟩
  | @refused above s rest n dir e hf hmem hopen =>
    refine Or.inl ?_
    have hcause : ∃ span', e = .reported (.cyclicInclude target path) span' := by
      cases e with
      | fault f => cases he
      | reported cause span' =>
        cases span' with
        | none => cases he; exact ⟨_, rfl⟩
        | some span' => cases he; exact ⟨_, rfl⟩
    obtain ⟨span', rfl⟩ := hcause
    rcases cause_of_openAt hopen with hload | ⟨cause, hkind, heq⟩
    · exact ⟨_, span', hload⟩
    · cases heq
      rcases hkind with hkind | hkind
      · cases hkind
      · cases hkind
  | inside hf _ hopen _ ih =>
    obtain ⟨hnames, hsource, -⟩ := drawn_of_opened hs hf hopen 0
    exact ih hsource (ha.remember hnames) he
  | following hf _ hopen hin _ ih =>
    obtain ⟨hnames, hsource, hlower⟩ := drawn_of_opened hs hf hopen _
    exact ih hlower (hin.reached hsource (ha.remember hnames)) he

/-! ## Cycles that are there -/

/-- **What unfolds leads to no cycle**, and no blank left in it is a directive. -/
theorem Unfolds.acc {out : List Section} (h : Unfolds load find base above todo above' out) :
    ∀ s ∈ todo, ∀ x ∈ s.lines, (find x ≠ none → find (Text.blank x) = none) ∧
      ∀ dir, find x = some dir →
        Acc (fun t s => Names load find base s t) (sourcePath base dir.target) := by
  induction h with
  | done =>
    intro s hs
    cases hs
  | @kept above above' s rest out hf _ ih =>
    refine List.forall_mem_cons.2 ⟨fun x hx => ?_, ih⟩
    have hnone := firstDirective_eq_none_iff.1 hf x hx
    exact ⟨fun hne => absurd hnone hne, fun dir hdir => (by rw [hnone] at hdir; cases hdir)⟩
  | @spliced above above₁ above₂ s upper source lower rest mid out n dir hf _ hopen _ hout ihin
      ihout =>
    obtain ⟨hsource, pre, x, post, hcut, hpre, hx⟩ := cut_of_openAt hf hopen
    obtain ⟨hload, -⟩ := load_eq_ok hsource
    have hblank : find (Text.blank x) = none := hout.head hcut.lines_lower
    have hsourceLines := ihin (source.shift (n - 1)) List.mem_cons_self
    obtain ⟨hlower, hrest⟩ := List.forall_mem_cons.1 (List.forall_mem_map.1 ihout)
    have hpost : ∀ y ∈ post, y ∈ (lower.shift (totalSize mid)).lines := by
      intro y hy
      rw [lines_shift, hcut.lines_lower]
      exact List.mem_cons_of_mem _ hy
    -- all that the source names is accessible, and so is the source
    have hacc : Acc (fun t s => Names load find base s t) (sourcePath base dir.target) := by
      refine Acc.intro _ fun target hnames => ?_
      obtain ⟨lines, hl, y, hy, dir', hdir, rfl⟩ := hnames
      obtain rfl := Except.ok.inj (hload.symm.trans hl)
      obtain ⟨hyblank, hyacc⟩ := hsourceLines y hy
      rcases hdir with hdir | ⟨hne, hdir⟩
      · exact hyacc dir' hdir
      · rw [hyblank hne] at hdir
        cases hdir
    refine List.forall_mem_cons.2 ⟨fun y hy => ?_, hrest⟩
    rw [hcut.lines] at hy
    rcases List.mem_append.1 hy with hy | hy
    · have hnone := hpre y hy
      exact ⟨fun hne => absurd hnone hne, fun dir hdir => (by rw [hnone] at hdir; cases hdir)⟩
    · rcases List.mem_cons.1 hy with rfl | hy
      · refine ⟨fun _ => hblank, fun dir' hdir => ?_⟩
        obtain rfl := Option.some.inj (hx.symm.trans hdir)
        exact hacc
      · exact hlower y (hpost y hy)

/-! ## Documents -/

/-- A document draws on its sources if all its lines are theirs, but for blanks of marked ones. -/
theorem drawn_of_gives {marked : String → Prop} {d : Document}
    (h : ∀ p ∈ d.located, ∃ y, load.Gives p.2 y ∧ (p.1 = y ∨ marked y ∧ p.1 = Text.blank y)) :
    ∀ s ∈ d.sections, s.Drawn load marked := by
  intro s hs
  have hgives : ∀ (i : Nat) x, s.lines[i]? = some x → ∃ y,
      load.Gives ⟨s.path, s.range.first + s.offset + i⟩ y ∧
        (x = y ∨ marked y ∧ x = Text.blank y) := by
    intro i x hx
    refine h (x, ⟨s.path, s.range.first + s.offset + i⟩) ?_
    rw [Document.located_eq]
    refine List.mem_flatMap.2 ⟨s, hs, List.mem_of_getElem? (i := i) ?_⟩
    rw [located, getElem?_placedFrom, hx]
    rfl
  have hpos : 0 < s.lines.length := s.size_pos
  obtain ⟨y, ⟨lines, hl, -, -⟩, -⟩ := hgives 0 s.lines[0] (List.getElem?_eq_getElem hpos)
  refine ⟨lines, hl, fun x hx => ?_⟩
  obtain ⟨i, hi⟩ := List.mem_iff_getElem?.1 hx
  obtain ⟨y, ⟨lines', hl', -, hy⟩, hxy⟩ := hgives i x hi
  obtain rfl := Except.ok.inj (hl.symm.trans hl')
  have hy := List.mem_of_getElem? hy
  rcases hxy with rfl | ⟨hm, rfl⟩
  · exact Or.inl hy
  · exact Or.inr ⟨y, hy, hm, rfl⟩

/-- **Cycles are found, and nothing else is taken for one.** Let a document be made of any fragments
of sources, none of them changed. Where including reports that `path` names `target` as part of a
cycle, and not on the word of the loader, it does name it and is reached from it. Where a directive
of the document leads to a cycle, including gives no document. -/
theorem cycle_detection {d : Document} (hd : d.Contiguous)
    (hgives : ∀ p ∈ d.located, load.Gives p.2 p.1) :
    (∀ target path span, Ends load find d (.error (.reported (.cyclicInclude target path) span)) →
      (∃ p span', load p = .error (.reported (.cyclicInclude target path) span')) ∨
        Names load find d.base path target ∧
          (target = path ∨ Relation.TransGen (Names load find d.base) target path)) ∧
    ∀ x ∈ d.lines, ∀ dir, find x = some dir → ∀ c,
      Relation.ReflTransGen (Names load find d.base) (sourcePath d.base dir.target) c →
      Relation.TransGen (Names load find d.base) c c → ∀ d', ¬Ends load find d (.ok d') := by
  have hdrawn : ∀ s ∈ d.sections, s.Drawn load (find · ≠ none) :=
    drawn_of_gives fun p hp => ⟨p.1, hgives p hp, Or.inl rfl⟩
  refine ⟨fun target path span h => ?_, fun x hx dir hdir c hreach hcycle d' h => ?_⟩
  · rcases outcome_of_ends hd h with ⟨e, he, hfails⟩ | ⟨above, out, hr, -⟩
    · refine hfails.real_cycle hdrawn ?_ (Except.error.inj he).symm
      intro t x hx
      cases hx
    · cases hr
  · rcases outcome_of_ends hd h with ⟨e, he, -⟩ | ⟨above, out, -, hunfolds⟩
    · cases he
    · obtain ⟨s, hs, hx⟩ := List.mem_flatMap.1 hx
      exact not_cycle_of_acc ((hunfolds.acc s hs x hx).2 dir hdir) hreach hcycle

/-- The directive of `rang` that is refused does close a cycle, and no document comes of `ring`. -/
theorem cycle_detection_ring : Sample.ring.Contiguous ∧
    (∀ p ∈ Sample.ring.located, Sample.sources.load.Gives p.2 p.1) ∧
    Ends Sample.sources.load Sample.find Sample.ring
      (.error (.reported (.cyclicInclude "ring" "rang") (some ⟨"rang", 2, 2, 2, 5⟩))) ∧
    Names Sample.sources.load Sample.find none "rang" "ring" ∧
    Relation.TransGen (Names Sample.sources.load Sample.find none) "ring" "rang" ∧
    ∀ d', ¬Ends Sample.sources.load Sample.find Sample.ring (.ok d') := by
  have hd : Sample.ring.Contiguous := ⟨rfl, trivial⟩
  have hgives : ∀ p ∈ Sample.ring.located, Sample.sources.load.Gives p.2 p.1 := by
    intro p hp
    have hlocated : Sample.ring.located =
        [("f", ⟨"ring", 1⟩), ("@rang", ⟨"ring", 2⟩), ("g", ⟨"ring", 3⟩)] := by decide
    rw [hlocated] at hp
    simp only [List.mem_cons, List.not_mem_nil, or_false] at hp
    rcases hp with rfl | rfl | rfl <;> exact ⟨["f", "@rang", "g"], rfl, by decide, rfl⟩
  have hends : Ends Sample.sources.load Sample.find Sample.ring
      (.error (.reported (.cyclicInclude "ring" "rang") (some ⟨"rang", 2, 2, 2, 5⟩))) := ⟨20, rfl⟩
  obtain ⟨hsound, hcomplete⟩ := @cycle_detection Sample.sources.load Sample.find _ hd hgives
  rcases hsound _ _ _ hends with ⟨p, span, hp⟩ | ⟨hnames, hreach⟩
  · cases Sample.kind?_of_error hp
  · have hback := hreach.resolve_left (by decide)
    refine ⟨hd, hgives, hends, hnames, hback, ?_⟩
    exact hcomplete "@rang" (by decide) ⟨"rang", 2, 5⟩ rfl "rang" .refl (.head hnames hback)

end Scan

end Patchwork
