import Patchwork.Proofs.Document.Insertion

/-!
# Insertion among overlapping sections

A document can be put together by hand from sections in any order, also from overlapping ones. An
insertion puts them in order, cuts the first that has the line, moves those after it down and only
then looks for overlaps. What it finds is what there was to find before: sections that overlap do so
afterwards, and sections that do not are not pushed into one another, so that the outcome is that of
assembling the sections first and inserting then (`insert_eq_ok_iff_disjoint`).
-/

namespace Patchwork

namespace Document

open Section

variable {d : Document} {n : Int}

/-! ## Assembling -/

/-- The only reason not to assemble sections is that two of them overlap. -/
theorem cause_of_assemble {base : Option String} {l : List Section} {e : Error}
    (h : assemble base l = .error e) :
    ∃ s t : Section, e = .reported (.overlap t.range t.path s.range s.path) none := by
  simp only [assemble] at h
  split at h
  · next s t _ =>
    cases h
    exact ⟨s, t, rfl⟩
  · cases h

theorem exists_assemble_iff {base : Option String} {l : List Section} :
    (∃ d, assemble base l = .ok d) ↔ l.Pairwise Section.Disjoint := by
  constructor
  · rintro ⟨d, h⟩
    exact (assemble_eq_ok.1 h).1
  · intro h
    exact ⟨_, assemble_eq_ok.2 ⟨h, rfl⟩⟩

/-! ## Inserting -/

/-- Sorting the sections beforehand makes no difference to an insertion. -/
theorem insert_inOrder (d : Document) (s : Section) (n : Int) :
    insert { d with sections := inOrder d.sections } s n = d.insert s n := by
  simp only [insert, Section.partition, inOrder_of_sorted (inOrder_sorted d.sections)]
  rfl

/-- Whether the pieces of an insertion overlap tells whether the sections did. -/
theorem pairwise_disjoint_splice_iff {before after : List Section} {target upper lower : Section}
    (hd : inOrder d.sections = before ++ target :: after) (hc : target.split n = .ok (upper, lower))
    (s : Section) :
    (splice before upper s lower after).Pairwise Section.Disjoint ↔
      d.sections.Pairwise Section.Disjoint := by
  have hordered : Ordered (before ++ target :: after) ↔ d.sections.Pairwise Section.Disjoint := by
    rw [← hd, ordered_inOrder_iff]
  rw [← hordered]
  constructor
  · intro hdisjoint
    exact ordered_of_splice (hd ▸ inOrder_sorted d.sections) hc hdisjoint
  · intro ho
    exact (ho.splice hc s).disjoint

/-- **Insertion neither hides an overlap nor makes one.** Where the first section in order that has
the line can be cut there, inserting a section succeeds just if no two of the sections overlap, and
is refused for an overlap otherwise. If it succeeds, the sections can be assembled, which puts them
in order, and inserting into the assembled document gives the same. -/
theorem insert_eq_ok_iff_disjoint {target : Section}
    (hfirst : (inOrder d.sections).find? (fun t => n ∈ t.range) = some target)
    (hcut : ∃ parts, target.split n = .ok parts) (s : Section) :
    ((∃ d', d.insert s n = .ok d') ↔ d.sections.Pairwise Section.Disjoint) ∧
      (¬d.sections.Pairwise Section.Disjoint →
        ∃ e, d.insert s n = .error e ∧ e.kind? = some .construction) ∧
      ∀ d', d.insert s n = .ok d' →
        d.withSections d.sections = .ok { d with sections := inOrder d.sections } ∧
          insert { d with sections := inOrder d.sections } s n = .ok d' := by
  obtain ⟨hn, before, after, hd, hbefore⟩ := List.find?_eq_some_iff_append.1 hfirst
  obtain ⟨⟨upper, lower⟩, hc⟩ := hcut
  have hn : n ∈ target.range := of_decide_eq_true hn
  have hbefore : ∀ t ∈ before, n ∉ t.range := fun t ht => by simpa using hbefore t ht
  have hinsert : d.insert s n = d.withSections (splice before upper s lower after) := by
    rw [insert_eq hd hbefore hn, hc]
    rfl
  have hiff : (∃ d', d.insert s n = .ok d') ↔ d.sections.Pairwise Section.Disjoint := by
    rw [hinsert, ← pairwise_disjoint_splice_iff hd hc s]
    exact exists_assemble_iff
  refine ⟨hiff, fun hoverlap => ?_, fun d' h => ?_⟩
  · cases he : d.insert s n with
    | ok d' => exact absurd (hiff.1 ⟨d', he⟩) hoverlap
    | error e =>
      rw [hinsert] at he
      obtain ⟨t, u, rfl⟩ := cause_of_assemble he
      exact ⟨_, rfl, rfl⟩
  · have hdisjoint := hiff.1 ⟨d', h⟩
    exact ⟨assemble_eq_ok.2 ⟨hdisjoint, rfl⟩, (d.insert_inOrder s n).trans h⟩

end Document

namespace Sample

def trunk : Section := ⟨"t", ⟨10, 13, by decide⟩, ["t1", "t2", "t3", "t4"], -9, rfl, by decide⟩

/-- Two sections that stand the wrong way round. -/
def unsorted : Document := ⟨none, [trunk, head]⟩

/-- The same two with a section that stands inside of `trunk`. -/
def overlapping : Document :=
  ⟨none, ⟨"x", ⟨12, 12, by decide⟩, ["x12"], 0, rfl, by decide⟩ :: unsorted.sections⟩

end Sample

open Section Document in
/-- The patch goes into the trunk, as into the sorted document. With the section inside of the trunk
it does not, although that section is moved clear of the line. -/
theorem insert_unsorted :
    (inOrder Sample.unsorted.sections).find? (fun t => (11 : Int) ∈ t.range) = some Sample.trunk ∧
      (inOrder Sample.overlapping.sections).find? (fun t => (11 : Int) ∈ t.range) =
        some Sample.trunk ∧
      (∃ d, Sample.unsorted.insert Sample.patch 11 = .ok d ∧
        insert ⟨none, inOrder Sample.unsorted.sections⟩ Sample.patch 11 = .ok d) ∧
      ∃ e, Sample.overlapping.insert Sample.patch 11 = .error e ∧
        e.kind? = some .construction := by
  have hcut : ∃ parts, Sample.trunk.split 11 = .ok parts := ⟨_, rfl⟩
  have hdisjoint : Sample.unsorted.sections.Pairwise Section.Disjoint := by
    unfold Section.Disjoint
    decide
  have hoverlap : ¬Sample.overlapping.sections.Pairwise Section.Disjoint := by
    unfold Section.Disjoint
    decide
  obtain ⟨hiff, -, hsorted⟩ := insert_eq_ok_iff_disjoint (d := Sample.unsorted) rfl hcut Sample.patch
  obtain ⟨d, hd⟩ := hiff.2 hdisjoint
  obtain ⟨-, hrefused, -⟩ :=
    insert_eq_ok_iff_disjoint (d := Sample.overlapping) rfl hcut Sample.patch
  exact ⟨rfl, rfl, ⟨d, hd, (hsorted d hd).2⟩, hrefused hoverlap⟩

end Patchwork
