import Patchwork.Proofs.Document.Insertion
import Patchwork.Proofs.Document.Production

/-!
# Line comments

A line comment blanks the lines that its pattern matches. Of several in a row the later ones see
blanks that the earlier ones have left, and may match them or may no longer match what is gone. Both
make no difference: a blank is its own blank, and a line that no pattern has matched is still as it
was. So the passes come to one, which asks whether any of the patterns matches
(`invokeAll_comments`), and neither their order nor how often they are made can be told. Nothing is
asked of the patterns but which lines they match.
-/

namespace Patchwork

/-! ## Blanking twice -/

theorem length_blankIf (p : String → Bool) (x : String) : (blankIf p x).length = x.length := by
  by_cases h : p x = true <;> simp [blankIf, h]

theorem blankIf_blankIf (p q : String → Bool) (x : String) :
    blankIf q (blankIf p x) = blankIf (fun y => p y || q y) x := by
  by_cases hp : p x = true
  · by_cases hq : q (Text.blank x) = true <;> simp [blankIf, hp, hq]
  · simp [blankIf, hp]

namespace Section

@[simp] theorem mapLines_mapLines (s : Section) (f g : String → String) :
    (s.mapLines f).mapLines g = s.mapLines (g ∘ f) := by
  ext1
  · rfl
  · rfl
  · exact List.map_map
  · rfl

@[simp] theorem mapLines_id (s : Section) : s.mapLines id = s := by
  ext1
  · rfl
  · rfl
  · exact List.map_id _
  · rfl

theorem entryAt?_mapLines (s : Section) (n : Int) (f : String → String) :
    (s.mapLines f).entryAt? n = (s.entryAt? n).map (Prod.map f id) :=
  entryAt?_eq_map rfl rfl rfl List.getElem?_map

end Section

/-! ## Macros by name -/

namespace Macro

theorem name_inj {m m' : Macro} (h : m.name = m'.name) : m = m' := by
  cases m <;> cases m' <;> simp [name] at h ⊢

theorem find?_name {table : List Macro} {m : Macro} (h : m ∈ table) :
    (table.find? fun k => k.name = m.name) = some m := by
  cases hf : table.find? fun k => k.name = m.name with
  | none =>
    have hnot := List.find?_eq_none.1 hf m h
    simp at hnot
  | some k =>
    have hk := List.find?_some hf
    rw [name_inj (of_decide_eq_true hk)]

end Macro

/-- The invocation is a line comment with the pattern: the pass that has been made of it, or options
that give it. -/
inductive Invocation.Comments : Invocation → Matcher → Prop
  | checked {p : Matcher} : Comments (.checked Macro.lineComment.name (.lineComment p)) p
  | unchecked {p : Matcher} {options : OptionTable}
      (h : Macro.patternOption Macro.lineComment.name options = .ok p) :
      Comments (.unchecked Macro.lineComment.name (.table options)) p

namespace Document

open Section

variable {d : Document} {sources : Sources} {table : List Macro}

theorem invoke_of_comments {i : Invocation} {p : Matcher} (ht : Macro.lineComment ∈ table)
    (h : i.Comments p) : d.invoke sources table i = d.blanking p.matchesIn := by
  have hfind := Macro.find?_name ht
  cases h with
  | checked =>
    unfold invoke
    rw [Invocation.name, hfind]
    rfl
  | unchecked hp =>
    unfold invoke
    rw [Invocation.name, hfind]
    simp only [Macro.configureValue, Macro.configure, hp]
    rfl

/-! ## One after the other -/

/-- Whether one of the patterns matches in the line. -/
def anyMatches (ps : List Matcher) (line : String) : Bool := ps.any (·.matchesIn line)

theorem invokeAll_of_comments (ho : Ordered d.sections) (ht : Macro.lineComment ∈ table)
    {invocations : List Invocation} {ps : List Matcher}
    (h : List.Forall₂ Invocation.Comments invocations ps) :
    d.invokeAll sources table invocations =
      .ok { d with sections := d.sections.map (·.mapLines (blankIf (anyMatches ps))) } := by
  induction h generalizing d with
  | nil =>
    have hnone : blankIf (anyMatches []) = id := by
      funext x
      simp [blankIf, anyMatches]
    simp [invokeAll, hnone, pure, Except.pure]
  | @cons i p invocations ps hi _ ih =>
    have hfold : blankIf (anyMatches ps) ∘ blankIf p.matchesIn =
        blankIf (anyMatches (p :: ps)) := by
      funext x
      rw [Function.comp_apply, blankIf_blankIf]
      rfl
    rw [invokeAll, List.foldlM_cons, invoke_of_comments ht hi, blanking_of_ordered ho]
    refine (ih (ho.map (range_mapLines · _))).trans ?_
    simp only [List.map_map, Function.comp_def, mapLines_mapLines]
    rw [← hfold]
    rfl

/-- What blanking the lines that satisfy `p` makes of `d`, told by line numbers. -/
structure Blanked (d : Document) (p : String → Bool) (d' : Document) : Prop where
  base_eq : d'.base = d.base
  shapes_eq : d'.sections.map (fun s => (s.path, s.range, s.offset, s.lines.map String.length)) =
    d.sections.map fun s => (s.path, s.range, s.offset, s.lines.map String.length)
  lines_eq : d'.lines =
    d.lines.map fun x => if p x then String.ofList (List.replicate x.length ' ') else x
  line_eq : ∀ n, d'.line n =
    (d.line n).map fun x => if p x then String.ofList (List.replicate x.length ' ') else x
  resolve_eq : ∀ n, d'.resolve n = d.resolve n

theorem blanked_map_mapLines (d : Document) (p : String → Bool) :
    Blanked d p { d with sections := d.sections.map (·.mapLines (blankIf p)) } := by
  have hlookup := fun n =>
    d.lookup_map (range_mapLines · (blankIf p)) (entryAt?_mapLines · n (blankIf p))
  refine ⟨rfl, ?_, ?_, fun n => (hlookup n).1, fun n => (hlookup n).2⟩
  · have hlengths : String.length ∘ blankIf p = String.length := by
      funext x
      exact length_blankIf p x
    simp [Section.mapLines, hlengths]
  · simp only [lines, List.flatMap_map, List.map_flatMap]
    rfl

/-- **Line comments in a row are one.** Invoked one after the other on an ordered document, line
comments succeed and blank the lines that one of their patterns matches before any of them is made.
Any other list of them that has the same patterns, in whatever order and however often, makes the
same of the document. -/
theorem invokeAll_comments (sources : Sources) (ho : Ordered d.sections)
    (ht : Macro.lineComment ∈ table) {invocations : List Invocation} {ps : List Matcher}
    (h : List.Forall₂ Invocation.Comments invocations ps) :
    ∃ d', d.invokeAll sources table invocations = .ok d' ∧
      Blanked d (fun x => ps.any (·.matchesIn x)) d' ∧
      ∀ (invocations' : List Invocation) (ps' : List Matcher),
        List.Forall₂ Invocation.Comments invocations' ps' → (∀ p, p ∈ ps' ↔ p ∈ ps) →
        d.invokeAll sources table invocations' = .ok d' := by
  refine ⟨_, invokeAll_of_comments ho ht h, blanked_map_mapLines d _, ?_⟩
  intro invocations' ps' h' hsame
  have heq : anyMatches ps' = anyMatches ps := by
    funext x
    rw [Bool.eq_iff_iff]
    simp only [anyMatches, List.any_eq_true, hsame]
  rw [invokeAll_of_comments ho ht h', heq]

/-- Blanks match the second pattern, which sees some once the first comment is made and none if it
goes first itself. -/
theorem invokeAll_comments_gapped : Ordered Sample.gapped.sections ∧
    Macro.lineComment ∈ Macro.builtin ∧ ∃ p q d,
      Pattern.compile? "^a[12]" = some p ∧ Pattern.compile? "^ +$|b4" = some q ∧
      d.lines = ["  ", "  ", "a3", "b3", "  ", "b5", "b6"] ∧
      Sample.gapped.invokeAll (.ofStored []) Macro.builtin
        [.unchecked "line_comment" (.table [("pattern", .text "^a[12]")]),
          .checked "line_comment" (.lineComment q)] = .ok d ∧
      Sample.gapped.invokeAll (.ofStored []) Macro.builtin
        [.checked "line_comment" (.lineComment q), .checked "line_comment" (.lineComment p),
          .checked "line_comment" (.lineComment q)] = .ok d := by
  have ht : Macro.lineComment ∈ Macro.builtin := by decide
  obtain ⟨p, q, hp, hq, hpattern, hlines⟩ : ∃ p q, Pattern.compile? "^a[12]" = some p ∧
      Pattern.compile? "^ +$|b4" = some q ∧
      Macro.patternOption Macro.lineComment.name [("pattern", .text "^a[12]")] = .ok p ∧
      Sample.gapped.lines.map (fun x => if [p, q].any (·.matchesIn x) then Text.blank x else x) =
        ["  ", "  ", "a3", "b3", "  ", "b5", "b6"] :=
    ⟨_, _, rfl, rfl, rfl, by decide +kernel⟩
  obtain ⟨d, hd, hblanked, hagain⟩ := invokeAll_comments (.ofStored []) Sample.ordered_gapped
    ht (.cons (.unchecked hpattern) (.cons (.checked (p := q)) .nil))
  refine ⟨Sample.ordered_gapped, ht, p, q, d, hp, hq, hblanked.lines_eq.trans hlines, hd, ?_⟩
  refine hagain _ [q, p, q] (.cons .checked (.cons .checked (.cons .checked .nil))) ?_
  intro k
  simp only [List.mem_cons, List.not_mem_nil]
  tauto

end Document

end Patchwork
