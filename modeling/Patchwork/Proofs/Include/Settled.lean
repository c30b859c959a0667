import Patchwork.Proofs.Include.Termination
import Patchwork.Proofs.Include.Unfolding

/-!
# Settled documents

A document is settled when none of its lines is a directive. A scan moves on from a section only if
it finds no directive there, and comes back to one that it has cut, so what it leaves behind is
settled; that holds for the blanks of directives too, which a scan looks at like any other line
(`Unfolds.firstDirective_eq_none`). On a settled document it only passes from section to section, and the
document stays as it is (`ends_of_settled`), whatever could have been loaded.
-/

namespace Patchwork

/-- No line of the document is a directive. -/
def Document.Settled (find : String → Option Directive) (d : Document) : Prop :=
  ∀ x ∈ d.lines, find x = none

namespace Scan

open Section

variable {load : Loader} {find : String → Option Directive} {base : Option String}

theorem settled_iff {d : Document} :
    d.Settled find ↔ ∀ s ∈ d.sections, s.firstDirective find = none := by
  simp only [Document.Settled, Document.lines, List.mem_flatMap, firstDirective_eq_none_iff]
  constructor
  · intro h s hs x hx
    exact h x ⟨s, hs, hx⟩
  · rintro h x ⟨s, hs, hx⟩
    exact h s hs x hx

/-- Sections that unfold leave no directive behind. -/
theorem Unfolds.firstDirective_eq_none {above above' : Above} {todo out : List Section}
    (h : Unfolds load find base above todo above' out) :
    ∀ s ∈ out, s.firstDirective find = none := by
  induction h with
  | done =>
    intro s hs
    cases hs
  | kept hf _ ih => exact List.forall_mem_cons.2 ⟨hf, ih⟩
  | @spliced above above₁ above₂ s upper source lower rest mid out n dir hf _ hopen _ _ ihin ihout =>
    obtain ⟨-, pre, x, post, hcut, hpre, -⟩ := cut_of_openAt hf hopen
    have hupper : upper.firstDirective find = none := by
      rw [firstDirective_eq_none_iff, hcut.lines_upper]
      exact hpre
    intro t ht
    rcases List.mem_append.1 ht with ht | ht
    · rcases List.mem_cons.1 ht with rfl | ht
      · exact hupper
      · exact ihin t ht
    · exact ihout t ht

/-- Where there is no directive, the scan passes all sections. -/
theorem run_past_settled {done todo : List Section} {above : Above} (ha : Abut 1 (done ++ todo))
    (h : ∀ s ∈ todo, s.firstDirective find = none) :
    run load find (todo.length + 1) (past base done todo above) = some (.ok ⟨base, done ++ todo⟩) := by
  induction todo generalizing done with
  | nil =>
    rw [List.append_nil] at ha ⊢
    exact run_past_nil 0 ha
  | cons s todo ih =>
    obtain ⟨hs, htodo⟩ := List.forall_mem_cons.1 h
    have ha' : Abut 1 ((done ++ [s]) ++ todo) := by simpa using ha
    rw [List.length_cons, run_past_kept ha _ hs, ih ha' htodo]
    simp

/-- The scan of a settled document gives it back. -/
theorem ends_of_settled {d : Document} (hd : d.Contiguous) (h : d.Settled find) :
    Ends load find d (.ok d) := by
  refine ⟨d.sections.length + 1, ?_⟩
  exact @run_past_settled load find d.base [] d.sections [] hd (settled_iff.1 h)

/-- **Including leaves nothing to include.** Where the scan of a contiguous document ends with a
document, that one is settled, and a scan of it ends with itself and with nothing else, whatever is
loaded then. -/
theorem including_settles {d d' : Document} (hd : d.Contiguous) (h : Ends load find d (.ok d')) :
    d'.Settled find ∧
      (∀ (load' : Loader) (r : Except Error Document), Ends load' find d' r ↔ r = .ok d') ∧
      ∀ sources : Sources, d'.including sources find = .ok d' := by
  rcases outcome_of_ends hd h with ⟨e, he, -⟩ | ⟨above, out, hr, hunfolds⟩
  · cases he
  obtain rfl := Except.ok.inj hr
  have hcontiguous : Document.Contiguous ⟨d.base, out⟩ := hunfolds.abut hd
  have hsettled : Document.Settled find ⟨d.base, out⟩ :=
    settled_iff.2 hunfolds.firstDirective_eq_none
  refine ⟨hsettled, ?_, ?_⟩
  · intro load' r
    constructor
    · intro hends
      exact hends.unique (ends_of_settled hcontiguous hsettled)
    · rintro rfl
      exact ends_of_settled hcontiguous hsettled
  · intro sources
    exact (ends_iff sources find _ _).1 (ends_of_settled hcontiguous hsettled)

/-- What becomes of `main` needs no sources any more. -/
theorem including_settles_main : Sample.main.Contiguous ∧
    ∃ d', Ends Sample.sources.load Sample.find Sample.main (.ok d') ∧ d'.lines.length = 7 ∧
      d'.Settled Sample.find ∧ d'.including (.ofStored []) Sample.find = .ok d' := by
  have hd : Sample.main.Contiguous := ⟨rfl, trivial⟩
  have hends : Ends Sample.sources.load Sample.find Sample.main _ := ⟨20, rfl⟩
  obtain ⟨hsettled, -, hagain⟩ := including_settles hd hends
  exact ⟨hd, _, hends, rfl, hsettled, hagain _⟩

end Scan

end Patchwork
