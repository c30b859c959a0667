import Patchwork.Proofs.Section.Order

/-!
# Partitions of any sections

Sections are divided around a line before it is known whether they overlap: they may come in any
order, several of them may have the line, and several may have one and the same range. Which of them
becomes the target is then settled by the sort, which is stable (`Section.StablySorted`). The parts
are the sorted sections, the target is the first of these that has the line, and no section is lost
(`Section.Divides`).
-/

namespace Patchwork

namespace Section

/-! ## The sort is stable -/

/-- The sections of `l` are those of `l'` in the order of their ranges, and the sections of each range
stand in the order in which they stand in `l'`. -/
structure StablySorted (l l' : List Section) : Prop where
  perm : l.Perm l'
  sorted : Sorted l
  stable : ∀ r : LineRange, (l.filter fun s => s.range = r) = l'.filter fun s => s.range = r

theorem filter_orderedInsert (r : LineRange) (s : Section) (l : List Section) :
    ((orderedInsert s l).filter fun t => t.range = r) = (s :: l).filter fun t => t.range = r := by
  induction l with
  | nil => rfl
  | cons t rest ih =>
    rw [orderedInsert]
    split
    · rfl
    · next hle =>
      -- `s` passes `t` by only if their ranges differ
      have hne : s.range ≠ t.range := by
        intro h
        rw [h] at hle
        exact hle (LineRange.le_refl _)
      rw [List.filter_cons, ih, List.filter_cons, List.filter_cons, List.filter_cons]
      by_cases hs : s.range = r
      · have ht : t.range ≠ r := fun ht => hne (hs.trans ht.symm)
        simp [ht]
      · simp [hs]

theorem filter_inOrder (r : LineRange) (l : List Section) :
    ((inOrder l).filter fun s => s.range = r) = l.filter fun s => s.range = r := by
  induction l with
  | nil => rfl
  | cons s rest ih =>
    show ((orderedInsert s (inOrder rest)).filter fun t => t.range = r) = _
    rw [filter_orderedInsert, List.filter_cons, ih, List.filter_cons]

theorem stablySorted_inOrder (l : List Section) : StablySorted (inOrder l) l where
  perm := inOrder_perm l
  sorted := inOrder_sorted l
  stable r := filter_inOrder r l

/-! ## The parts -/

/-- The sections of a partition, one after the other. -/
def Partition.all (p : Partition) : List Section := p.before ++ (p.target.toList ++ p.after)

/-- The parts of `p` are the sections of `l`, sorted, and the target is the first of them that has the
line `n`. -/
structure Divides (p : Partition) (l : List Section) (n : Int) : Prop where
  all_stablySorted : StablySorted p.all l
  not_mem_of_before : ∀ s ∈ p.before, n ∉ s.range
  mem_of_target : ∀ t, p.target = some t → n ∈ t.range
  exists_target_iff : (∃ t, p.target = some t) ↔ ∃ s ∈ l, n ∈ s.range
  after_eq_nil : p.target = none → p.after = []
  totalSize_eq : totalSize p.before + totalSize p.target.toList + totalSize p.after = totalSize l

/-- **Partitioning loses no section.** Whatever sections are given, and around whatever line they are
to be divided, the parts are the given sections, stably sorted. The target has the line and no section
before it does; there is a target just if some section has the line, and without one all sections are
before. -/
theorem divides_partition (l : List Section) (n : Int) : Divides (partition l n) l n := by
  have hall : (partition l n).all = inOrder l := partitionAt_append n (inOrder l)
  have hsorted : StablySorted (partition l n).all l := hall ▸ stablySorted_inOrder l
  have hsize := totalSize_perm hsorted.perm
  rw [Partition.all, totalSize_append, totalSize_append, ← Nat.add_assoc] at hsize
  have hmem : ∀ s, s ∈ inOrder l ↔ s ∈ l := fun _ => (inOrder_perm l).mem_iff
  rcases exists_split_at n (inOrder l) with hnone | ⟨before, target, after, hl, hb, ht⟩
  · have hp : partition l n = ⟨inOrder l, none, []⟩ := partitionAt_of_forall_not_mem hnone
    rw [hp] at hsorted hsize ⊢
    refine ⟨hsorted, hnone, fun t ht => (by cases ht), ?_, fun _ => rfl, hsize⟩
    constructor
    · rintro ⟨t, ht⟩
      cases ht
    · rintro ⟨s, hs, hn⟩
      exact absurd hn (hnone s ((hmem s).2 hs))
  · have hp : partition l n = ⟨before, some target, after⟩ := by
      rw [partition, hl, partitionAt_eq hb ht]
    have htarget : target ∈ l := by
      rw [← hmem, hl]
      exact List.mem_append_right _ List.mem_cons_self
    rw [hp] at hsorted hsize ⊢
    refine ⟨hsorted, hb, ?_, ?_, fun h => (by cases h), hsize⟩
    · intro t h
      cases h
      exact ht
    · exact ⟨fun _ => ⟨target, htarget, ht⟩, fun _ => ⟨target, rfl⟩⟩

end Section

end Patchwork
