import Patchwork.Pass
import Patchwork.Proofs.Include.Run

/-!
# Produced documents

A document is `Produced` when it has been read and then edited, included into, blanked or had macros
invoked on it, any number of times in any order. Each of these operations keeps it contiguous and
with at least one line, so its line numbers always run from 1 to its size
(`contiguous_of_produced`).
-/

namespace Patchwork

/-- The line, blanked if it satisfies `p`. -/
def blankIf (p : String → Bool) (line : String) : String := if p line then Text.blank line else line

namespace Document

open Section

/-- The documents that reading and any later operations lead to. -/
inductive Produced (load : Loader) : Document → Prop
  | read {base : Option String} {source : String} {d : Document}
      (h : Document.read load base source = .ok d) : Produced load d
  | insert {d d' : Document} {s : Section} {n : Int} (hd : Produced load d)
      (h : d.insert s n = .ok d') : Produced load d'
  | insertSource {d d' : Document} {source : String} {n : Int} (hd : Produced load d)
      (h : d.insertSource load source n = .ok d') : Produced load d'
  | update {d d' : Document} {n : Int} {f : String → String} (hd : Produced load d)
      (h : d.update n f = .ok d') : Produced load d'
  | included {d d' : Document} {find : String → Option Directive} (hd : Produced load d)
      (h : Scan.Ends load find d (.ok d')) : Produced load d'
  | blanked {d d' : Document} {p : String → Bool} (hd : Produced load d)
      (h : d.blanking p = .ok d') : Produced load d'
  | invoked {d d' : Document} {sources : Sources} {table : List Macro}
      {invocations : List Invocation} (hload : sources.load = load) (hd : Produced load d)
      (h : d.invokeAll sources table invocations = .ok d') : Produced load d'

/-! ## Passes -/

/-- Blanking maps over the lines. -/
theorem blanking_eq (p : String → Bool) (d : Document) :
    d.blanking p = d.withSections (d.sections.map (·.mapLines (blankIf p))) := by
  have hsections : d.sections.mapM (Section.blanking p) =
      .ok (d.sections.map (·.mapLines (blankIf p))) := by
    rw [show Section.blanking p = fun s => pure (s.mapLines (blankIf p)) from
      funext fun s => foldlM_update_allMatching p Text.blank s]
    exact List.mapM_pure
  rw [blanking, hsections]
  rfl

theorem blanking_of_ordered {d : Document} (h : Ordered d.sections) (p : String → Bool) :
    d.blanking p = .ok { d with sections := d.sections.map (·.mapLines (blankIf p)) } := by
  rw [blanking_eq, withSections, assemble_of_ordered]
  exact List.pairwise_map.2 h

theorem invoke_eq_ok {sources : Sources} {table : List Macro} {d d' : Document} {i : Invocation}
    (h : d.invoke sources table i = .ok d') : ∃ pass, Pass.apply sources d pass = .ok d' := by
  unfold invoke at h
  split at h
  · cases h
  · split at h
    · obtain ⟨pass, -, hp⟩ := bind_eq_ok.1 h
      exact ⟨pass, hp⟩
    · exact ⟨_, h⟩

/-- What including and blanking keep, every list of invocations keeps. -/
theorem invokeAll_induction {P : Document → Prop} {sources : Sources} {table : List Macro}
    (hinclude : ∀ d d' find, P d → Scan.Ends sources.load find d (.ok d') → P d')
    (hblank : ∀ d d' p, P d → d.blanking p = .ok d' → P d')
    {invocations : List Invocation} {d d' : Document} (hd : P d)
    (h : d.invokeAll sources table invocations = .ok d') : P d' := by
  induction invocations generalizing d with
  | nil =>
    cases h
    exact hd
  | cons i invocations ih =>
    obtain ⟨d₁, hi, h⟩ := bind_eq_ok.1 ((List.foldlM_cons ..).symm.trans h)
    refine ih ?_ h
    obtain ⟨pass, hp⟩ := invoke_eq_ok hi
    cases pass with
    | inclusion p => exact hinclude _ _ _ hd (Scan.ends_of_including hp)
    | lineComment p => exact hblank _ _ _ hd hp
    | bare p => cases hp

theorem produced_of_readAndInvoke {sources : Sources} {base : Option String} {source : String}
    {invocations : List Invocation} {d : Document}
    (h : readAndInvoke sources base source invocations = .ok d) : Produced sources.load d := by
  obtain ⟨d₀, hr, hi⟩ := bind_eq_ok.1 h
  exact .invoked rfl (.read hr) hi

/-! ## The invariant -/

/-- There is a line, and the sections abut from line 1 on. -/
structure Sound (d : Document) : Prop where
  ne_nil : d.sections ≠ []
  contiguous : d.Contiguous

namespace Sound

variable {d d' : Document}

theorem lines_ne_nil (h : d.Sound) : d.lines ≠ [] := by
  obtain ⟨t, rest, ht⟩ := List.exists_cons_of_ne_nil h.ne_nil
  have hpos := t.size_pos
  intro hnil
  have hlen := d.length_lines
  rw [hnil, List.length_nil, Document.size, ht, Section.totalSize_cons] at hlen
  omega

theorem read {load : Loader} {base : Option String} {source : String}
    (h : Document.read load base source = .ok d) : d.Sound := by
  obtain ⟨s, hs, hd⟩ := bind_eq_ok.1 h
  cases hd
  exact ⟨by simp, (load_eq_ok hs).2.2.1, trivial⟩

theorem update (h : d.Sound) {n : Int} {f : String → String} (hu : d.update n f = .ok d') :
    d'.Sound := by
  refine ⟨fun hnil => h.ne_nil ?_, h.contiguous.update hu⟩
  obtain ⟨-, rfl⟩ := update_eq_ok hu
  have hr := map_range_modifyLine n f d.sections
  rw [show modifyLine n f d.sections = [] from hnil] at hr
  exact List.map_eq_nil_iff.1 hr.symm

theorem insert (h : d.Sound) {s : Section} {n : Int} (hi : d.insert s n = .ok d') : d'.Sound := by
  refine ⟨fun hnil => ?_, h.contiguous.insert hi⟩
  obtain ⟨before, target, after, upper, lower, -, -, -, -, rfl⟩ := insert_eq_ok hi
  simp [splice] at hnil

theorem insertSource (h : d.Sound) {load : Loader} {source : String} {n : Int}
    (hi : d.insertSource load source n = .ok d') : d'.Sound := by
  obtain ⟨s, -, hi⟩ := bind_eq_ok.1 hi
  exact h.insert hi

theorem including (h : d.Sound) {load : Loader} {find : String → Option Directive}
    (he : Scan.Ends load find d (.ok d')) : d'.Sound :=
  he.induction (fun _ _ _ _ _ hd hb hi => (hd.update hb).insertSource hi) h

theorem blanking (h : d.Sound) {p : String → Bool} (hb : d.blanking p = .ok d') : d'.Sound := by
  rw [blanking_of_ordered (Abut.ordered h.contiguous), Except.ok.injEq] at hb
  subst hb
  refine ⟨by simpa using h.ne_nil, Abut.congr h.contiguous ?_⟩
  rw [List.map_map]
  rfl

end Sound

theorem Produced.sound {load : Loader} {d : Document} (h : Produced load d) : d.Sound := by
  induction h with
  | read h => exact .read h
  | insert _ h ih => exact ih.insert h
  | insertSource _ h ih => exact ih.insertSource h
  | update _ h ih => exact ih.update h
  | included _ h ih => exact ih.including h
  | blanked _ h ih => exact ih.blanking h
  | invoked _ _ h ih =>
    exact invokeAll_induction (fun _ _ _ hd he => hd.including he)
      (fun _ _ _ hd hb => hd.blanking hb) ih h

/-- **Line numbers of produced documents.** The sections abut from line 1 on, each with a text for
every line of its range and from line 1 of its source or later; the size, the last line number and
the number of lines are one number, and just the lines from 1 to it have a text, which is that of the
stored order, and a place. -/
theorem contiguous_of_produced {load : Loader} {d : Document} (h : Produced load d) :
    d.sections ≠ [] ∧ d.Contiguous ∧ Ordered d.sections ∧
      (∀ s ∈ d.sections, s.lines.length = s.range.size ∧ 1 ≤ s.range.first + s.offset) ∧
      d.lastLine = d.size ∧ d.lines.length = d.size ∧
      ∀ n : Int,
        (1 ≤ n ∧ n ≤ d.size → ∃ x q, d.line n = .ok x ∧ d.resolve n = .ok q ∧
          d.lines[(n - 1).toNat]? = some x) ∧
        (¬(1 ≤ n ∧ n ≤ d.size) → ∃ e, d.line n = .error e ∧ d.resolve n = .error e ∧
          e.kind? = some .range) := by
  obtain ⟨hne, hc⟩ := h.sound
  refine ⟨hne, hc, Abut.ordered hc, fun s _ => ⟨s.length_lines, s.one_le_local⟩, hc.lastLine_eq,
    d.length_lines, fun n => ⟨fun hn => ?_, fun hn => ?_⟩⟩
  · obtain ⟨x, q, hx, hq, hloc⟩ := hc.lookup hn
    refine ⟨x, q, hx, hq, ?_⟩
    rw [← d.map_fst_located, List.getElem?_map, hloc]
    rfl
  · obtain ⟨hx, hq⟩ := hc.lookup_outside hn
    exact ⟨_, hx, hq, rfl⟩

/-- A document that has been read, changed, spliced into and included into. -/
theorem contiguous_of_edits : ∃ d₁ d₂ d₃ d,
    Document.read Sample.sources.load none "main" = .ok d₁ ∧ d₁.update 2 Text.blank = .ok d₂ ∧
      d₂.insertSource Sample.sources.load "part" 2 = .ok d₃ ∧
      Scan.Ends Sample.sources.load Sample.find d₃ (.ok d) ∧ d.Contiguous ∧ d.lastLine = 7 := by
  obtain ⟨d₁, d₂, d₃, d, h₁, h₂, h₃, h₄, hsize⟩ : ∃ d₁ d₂ d₃ d,
      Document.read Sample.sources.load none "main" = .ok d₁ ∧ d₁.update 2 Text.blank = .ok d₂ ∧
        d₂.insertSource Sample.sources.load "part" 2 = .ok d₃ ∧
        Scan.Ends Sample.sources.load Sample.find d₃ (.ok d) ∧ d.size = 7 :=
    ⟨_, _, _, _, rfl, rfl, rfl, ⟨20, rfl⟩, rfl⟩
  obtain ⟨-, hc, -, -, hlast, -⟩ :=
    contiguous_of_produced (.included (.insertSource (.update (.read h₁) h₂) h₃) h₄)
  exact ⟨d₁, d₂, d₃, d, h₁, h₂, h₃, h₄, hc, by rw [hlast, hsize]; rfl⟩

end Document

end Patchwork
