import Mathlib.Data.List.Sort
import Patchwork.Proofs.Section.Algebra
import Patchwork.Section.Order

/-!
# Ordered and abutting sections

Sections are `Ordered` when each ends before all later ones begin, and `Abut` when each begins right
after the one before it has ended. `inOrder` sorts a list of sections and changes nothing else
(`inOrder_perm`, `inOrder_sorted`), so `firstOverlap` finds no overlap after it exactly when the
sections are pairwise disjoint (`firstOverlap_eq_none_iff`, `ordered_inOrder_iff`).
-/

namespace Patchwork

namespace LineRange

theorem le_iff {r s : LineRange} :
    r.le s = true ↔ r.first < s.first ∨ r.first = s.first ∧ r.last ≤ s.last := by
  simp [LineRange.le]

theorem le_of_last_lt {r s : LineRange} (h : r.last < s.first) : r.le s = true := by
  have := r.first_le_last
  exact le_iff.2 (Or.inl (by omega))

theorem first_le_of_le {r s : LineRange} (h : r.le s = true) : r.first ≤ s.first := by
  rcases le_iff.1 h with h | h <;> omega

theorem le_refl (r : LineRange) : r.le r = true := le_iff.2 (Or.inr ⟨rfl, Int.le_refl _⟩)

theorem le_trans {r s t : LineRange} (h₁ : r.le s = true) (h₂ : s.le t = true) : r.le t = true := by
  rw [le_iff] at *
  omega

theorem le_total (r s : LineRange) : r.le s = true ∨ s.le r = true := by
  rw [le_iff, le_iff]
  omega

end LineRange

namespace Section

/-! ## Sorting -/

theorem orderedInsert_perm (s : Section) (l : List Section) : (orderedInsert s l).Perm (s :: l) := by
  induction l with
  | nil => exact .refl _
  | cons t rest ih =>
    rw [orderedInsert]
    split
    · exact .refl _
    · exact (ih.cons t).trans (.swap s t rest)

theorem inOrder_perm (l : List Section) : (inOrder l).Perm l := by
  induction l with
  | nil => exact .refl _
  | cons s rest ih => exact (orderedInsert_perm s _).trans (ih.cons s)

/-- No section comes after one with a larger range. -/
def Sorted (l : List Section) : Prop := l.Pairwise fun s t => s.range.le t.range = true

theorem orderedInsert_sorted (s : Section) {l : List Section} (h : Sorted l) :
    Sorted (orderedInsert s l) := by
  induction l with
  | nil => exact List.pairwise_singleton _ _
  | cons t rest ih =>
    obtain ⟨ht, hrest⟩ := List.pairwise_cons.1 h
    rw [orderedInsert]
    split
    · next hle =>
      refine List.pairwise_cons.2 ⟨fun u hu => ?_, h⟩
      rcases List.mem_cons.1 hu with rfl | hu
      · exact hle
      · exact LineRange.le_trans hle (ht u hu)
    · next hle =>
      refine List.pairwise_cons.2 ⟨fun u hu => ?_, ih hrest⟩
      rcases List.mem_cons.1 ((orderedInsert_perm s rest).mem_iff.1 hu) with rfl | hu
      · exact (LineRange.le_total _ _).resolve_left hle
      · exact ht u hu

theorem inOrder_sorted (l : List Section) : Sorted (inOrder l) := by
  induction l with
  | nil => exact .nil
  | cons s rest ih => exact orderedInsert_sorted s ih

/-- Sorting leaves a sorted list as it is. -/
theorem inOrder_of_sorted {l : List Section} (h : Sorted l) : inOrder l = l := by
  induction l with
  | nil => rfl
  | cons s rest ih =>
    obtain ⟨hs, hrest⟩ := List.pairwise_cons.1 h
    show orderedInsert s (inOrder rest) = s :: rest
    rw [ih hrest]
    cases rest with
    | nil => rfl
    | cons t rest => rw [orderedInsert, if_pos (hs t List.mem_cons_self)]

/-! ## Sections without overlap -/

/-- Each section ends before any later one begins. -/
def Ordered (l : List Section) : Prop := l.Pairwise fun s t => s.range.last < t.range.first

theorem Ordered.sorted {l : List Section} (h : Ordered l) : Sorted l :=
  h.imp fun h => LineRange.le_of_last_lt h

theorem inOrder_of_ordered {l : List Section} (h : Ordered l) : inOrder l = l :=
  inOrder_of_sorted h.sorted

/-- It is enough to compare neighbours, because ranges are not empty. -/
theorem firstOverlap_eq_none_iff {l : List Section} : firstOverlap l = none ↔ Ordered l := by
  induction l with
  | nil => exact ⟨fun _ => .nil, fun _ => rfl⟩
  | cons s rest ih =>
    cases rest with
    | nil => exact ⟨fun _ => List.pairwise_singleton _ _, fun _ => rfl⟩
    | cons t rest =>
      rw [firstOverlap]
      split
      · next hle =>
        refine ⟨fun h => (by cases h), fun h => ?_⟩
        have := (List.pairwise_cons.1 h).1 t List.mem_cons_self
        omega
      · next hle =>
        rw [ih]
        refine ⟨fun h => List.pairwise_cons.2 ⟨fun u hu => ?_, h⟩, fun h => (List.pairwise_cons.1 h).2⟩
        rcases List.mem_cons.1 hu with rfl | hu
        · omega
        · have := (List.pairwise_cons.1 h).1 u hu
          have := t.range.first_le_last
          omega

/-- The ranges have no line in common. -/
def Disjoint (s t : Section) : Prop :=
  s.range.last < t.range.first ∨ t.range.last < s.range.first

theorem Disjoint.symm {s t : Section} (h : Disjoint s t) : Disjoint t s := Or.symm h

theorem Disjoint.not_mem {s t : Section} {n : Int} (h : Disjoint s t) (hs : n ∈ s.range) :
    n ∉ t.range := by
  intro ht
  rw [LineRange.mem_iff] at hs ht
  unfold Disjoint at h
  omega

theorem Ordered.disjoint {l : List Section} (h : Ordered l) : l.Pairwise Disjoint :=
  h.imp Or.inl

/-- Sorted sections without overlap are ordered. -/
theorem Sorted.ordered {l : List Section} (hs : Sorted l) (hd : l.Pairwise Disjoint) : Ordered l :=
  (hs.and hd).imp fun {s t} ⟨hle, hd⟩ => by
    have := LineRange.first_le_of_le hle
    have := t.range.first_le_last
    unfold Disjoint at hd
    omega

theorem ordered_inOrder_iff {l : List Section} : Ordered (inOrder l) ↔ l.Pairwise Disjoint := by
  constructor
  · intro h
    exact ((inOrder_perm l).pairwise_iff Disjoint.symm).1 h.disjoint
  · intro h
    exact (inOrder_sorted l).ordered (((inOrder_perm l).pairwise_iff Disjoint.symm).2 h)

/-- However the sections of an ordered list have been mixed up, sorting brings the list back. -/
theorem Ordered.inOrder_of_perm {l l' : List Section} (h : Ordered l) (hp : l'.Perm l) :
    inOrder l' = l := by
  have hdisjoint : l'.Pairwise Disjoint := (hp.pairwise_iff Disjoint.symm).2 h.disjoint
  have hordered : Ordered (inOrder l') := ordered_inOrder_iff.2 hdisjoint
  apply List.Perm.eq_of_pairwise _ hordered h ((inOrder_perm l').trans hp)
  -- two sections cannot each end before the other begins
  intro s t _ _ hst hts
  have hs := s.range.first_le_last
  have ht := t.range.first_le_last
  omega

/-- The order of sections is that of their ranges. -/
theorem Ordered.congr {l l' : List Section} (h : Ordered l)
    (hr : l'.map (·.range) = l.map (·.range)) : Ordered l' := by
  have hl : (l.map (·.range)).Pairwise fun r t => r.last < t.first := List.pairwise_map.2 h
  rw [← hr] at hl
  exact List.pairwise_map.1 hl

/-- What keeps the ranges of sections keeps their order. -/
theorem Ordered.map {l : List Section} (h : Ordered l) {f : Section → Section}
    (hrange : ∀ s, (f s).range = s.range) : Ordered (l.map f) := by
  apply h.congr
  simp [hrange]

/-- Moving all sections by the same number of lines keeps their order. -/
theorem Ordered.map_shift {l : List Section} (h : Ordered l) (n : Int) :
    Ordered (l.map (·.shift n)) := by
  refine List.pairwise_map.2 (h.imp fun {s t} h => ?_)
  simp only [range_shift, LineRange.first_shift, LineRange.last_shift]
  omega

/-! ## The section that holds a line -/

theorem partitionAt_eq {before after : List Section} {target : Section} {n : Int}
    (hb : ∀ s ∈ before, n ∉ s.range) (ht : n ∈ target.range) :
    partitionAt n (before ++ target :: after) = ⟨before, some target, after⟩ := by
  induction before with
  | nil => rw [List.nil_append, partitionAt, if_pos ht]
  | cons s before ih =>
    have ih := ih fun t h => hb t (List.mem_cons_of_mem _ h)
    rw [List.cons_append, partitionAt, if_neg (hb s List.mem_cons_self), ih]

theorem partitionAt_of_forall_not_mem {l : List Section} {n : Int} (h : ∀ s ∈ l, n ∉ s.range) :
    partitionAt n l = ⟨l, none, []⟩ := by
  induction l with
  | nil => rfl
  | cons s rest ih =>
    rw [partitionAt, if_neg (h s List.mem_cons_self), ih fun t h' => h t (List.mem_cons_of_mem _ h')]

/-- A list either has a first section that holds the line `n`, or none that does. -/
theorem exists_split_at (n : Int) (l : List Section) :
    (∀ s ∈ l, n ∉ s.range) ∨ ∃ before target after, l = before ++ target :: after ∧
      (∀ s ∈ before, n ∉ s.range) ∧ n ∈ target.range := by
  induction l with
  | nil => exact Or.inl (by simp)
  | cons s rest ih =>
    by_cases hs : n ∈ s.range
    · exact Or.inr ⟨[], s, rest, rfl, by simp, hs⟩
    · rcases ih with h | ⟨before, target, after, rfl, hb, ht⟩
      · exact Or.inl (List.forall_mem_cons.2 ⟨hs, h⟩)
      · exact Or.inr ⟨s :: before, target, after, rfl, List.forall_mem_cons.2 ⟨hs, hb⟩, ht⟩

/-- In an ordered list only one section holds a line. -/
theorem Ordered.not_mem_of_mem {before after : List Section} {target : Section} {n : Int}
    (h : Ordered (before ++ target :: after)) (ht : n ∈ target.range) :
    (∀ s ∈ before, n ∉ s.range) ∧ ∀ s ∈ after, n ∉ s.range := by
  obtain ⟨-, hta, hb⟩ := List.pairwise_append.1 h
  have ha := (List.pairwise_cons.1 hta).1
  constructor
  · intro s hs
    have hd : Disjoint target s := Or.inr (hb s hs target List.mem_cons_self)
    exact hd.not_mem ht
  · intro s hs
    have hd : Disjoint target s := Or.inl (ha s hs)
    exact hd.not_mem ht

/-- The target of a partition is the first section that holds the line. -/
theorem target_partitionAt (n : Int) (l : List Section) :
    (partitionAt n l).target = l.find? fun s => n ∈ s.range := by
  induction l with
  | nil => rfl
  | cons s rest ih =>
    by_cases hs : n ∈ s.range
    · simp [partitionAt, hs]
    · simp [partitionAt, hs, ih]

/-- A partition takes nothing from a list and adds nothing to it. -/
theorem partitionAt_append (n : Int) (l : List Section) :
    (partitionAt n l).before ++ ((partitionAt n l).target.toList ++ (partitionAt n l).after) = l := by
  induction l with
  | nil => rfl
  | cons s rest ih =>
    by_cases hs : n ∈ s.range
    · simp [partitionAt, hs]
    · simp [partitionAt, hs, ih]

/-- Around its target a partition of an ordered list leaves sections above the line and below it. -/
theorem Ordered.around {l : List Section} {target : Section} {n : Int} (h : Ordered l)
    (ht : (partitionAt n l).target = some target) :
    (∀ s ∈ (partitionAt n l).before, s.range.last < n) ∧
      ∀ s ∈ (partitionAt n l).after, n < s.range.first := by
  have hl := partitionAt_append n l
  rw [ht, Option.toList_some, List.singleton_append] at hl
  rw [← hl] at h
  obtain ⟨-, hta, hb⟩ := List.pairwise_append.1 h
  have hn : n ∈ target.range := by
    rw [target_partitionAt] at ht
    simpa using List.find?_some ht
  rw [LineRange.mem_iff] at hn
  constructor
  · intro s hs
    have := hb s hs target List.mem_cons_self
    omega
  · intro s hs
    have := (List.pairwise_cons.1 hta).1 s hs
    omega

/-- In an ordered list no section holds a line besides the first that does. -/
theorem Ordered.filter_eq {l : List Section} (h : Ordered l) (n : Int) :
    (l.filter fun s => n ∈ s.range) = (l.find? fun s => n ∈ s.range).toList := by
  induction l with
  | nil => rfl
  | cons s rest ih =>
    by_cases hs : n ∈ s.range
    · have hcut : Ordered ([] ++ s :: rest) := h
      simpa [hs] using (hcut.not_mem_of_mem hs).2
    · simpa [hs] using ih (List.pairwise_cons.1 h).2

/-! ## Abutting sections -/

/-- The first section begins at the line `n` and each next one right after the one before it. -/
def Abut (n : Int) : List Section → Prop
  | [] => True
  | s :: rest => s.range.first = n ∧ Abut (s.range.last + 1) rest

@[simp] theorem totalSize_nil : totalSize [] = 0 := rfl

@[simp] theorem totalSize_cons (s : Section) (l : List Section) :
    totalSize (s :: l) = s.size + totalSize l := rfl

@[simp] theorem totalSize_append (l₁ l₂ : List Section) :
    totalSize (l₁ ++ l₂) = totalSize l₁ + totalSize l₂ := by
  induction l₁ with
  | nil => simp
  | cons s l₁ ih => simp [ih, Nat.add_assoc]

@[simp] theorem totalSize_map_shift (l : List Section) (n : Int) :
    totalSize (l.map (·.shift n)) = totalSize l := by
  induction l with
  | nil => rfl
  | cons s l ih => simp [ih]

theorem totalSize_perm {l l' : List Section} (h : l.Perm l') : totalSize l = totalSize l' := by
  induction h with
  | nil => rfl
  | cons s _ ih => rw [totalSize_cons, totalSize_cons, ih]
  | swap s t l => simp only [totalSize_cons, Nat.add_left_comm]
  | trans _ _ ih ih' => exact ih.trans ih'

theorem abut_cons {n : Int} {s : Section} {l : List Section} :
    Abut n (s :: l) ↔ s.range.first = n ∧ Abut (n + s.size) l := by
  rw [Abut]
  refine and_congr_right fun h => ?_
  rw [s.last_eq, h, Int.sub_add_cancel]

theorem abut_append {n : Int} {l₁ l₂ : List Section} :
    Abut n (l₁ ++ l₂) ↔ Abut n l₁ ∧ Abut (n + totalSize l₁) l₂ := by
  induction l₁ generalizing n with
  | nil => simp [Abut]
  | cons s l₁ ih =>
    rw [List.cons_append, abut_cons, ih, abut_cons, totalSize_cons, and_assoc, Int.natCast_add,
      Int.add_assoc]

theorem Abut.congr {l l' : List Section} {m : Int} (h : Abut m l)
    (hr : l'.map (·.range) = l.map (·.range)) : Abut m l' := by
  induction l generalizing m l' with
  | nil =>
    obtain rfl := List.map_eq_nil_iff.1 hr
    trivial
  | cons s l ih =>
    obtain ⟨s', l', rfl, hs, hl⟩ := List.map_eq_cons_iff.1 hr
    refine ⟨by rw [hs]; exact h.1, ih ?_ hl⟩
    rw [hs]
    exact h.2

theorem Abut.map_shift {n : Int} {l : List Section} (h : Abut n l) (k : Int) :
    Abut (n + k) (l.map (·.shift k)) := by
  induction l generalizing n with
  | nil => trivial
  | cons s l ih =>
    obtain ⟨hs, hl⟩ := abut_cons.1 h
    refine abut_cons.2 ⟨by simp [hs], ?_⟩
    have := ih hl
    rwa [size_shift, Int.add_right_comm]

/-- The lines held by abutting sections are the lines from `n` on, as many as the sections have. -/
theorem Abut.exists_mem_iff {n : Int} {l : List Section} (h : Abut n l) (k : Int) :
    (∃ s ∈ l, k ∈ s.range) ↔ n ≤ k ∧ k < n + totalSize l := by
  induction l generalizing n with
  | nil =>
    simp only [List.not_mem_nil, false_and, exists_false, totalSize_nil, Int.natCast_zero, false_iff]
    omega
  | cons s l ih =>
    obtain ⟨hs, hl⟩ := abut_cons.1 h
    rw [List.exists_mem_cons_iff, ih hl, LineRange.mem_iff, s.last_eq, hs, totalSize_cons]
    have := s.size_pos
    push_cast
    omega

theorem Abut.le_first {n : Int} {l : List Section} (h : Abut n l) :
    ∀ s ∈ l, n ≤ s.range.first ∧ s.range.last < n + totalSize l := by
  intro s hs
  have h₁ := (h.exists_mem_iff s.range.first).1 ⟨s, hs, s.range.first_mem⟩
  have h₂ := (h.exists_mem_iff s.range.last).1 ⟨s, hs, s.range.last_mem⟩
  exact ⟨h₁.1, h₂.2⟩

theorem Abut.ordered {n : Int} {l : List Section} (h : Abut n l) : Ordered l := by
  induction l generalizing n with
  | nil => exact .nil
  | cons s l ih =>
    refine List.pairwise_cons.2 ⟨fun t ht => ?_, ih h.2⟩
    have := (Abut.le_first h.2 t ht).1
    omega

end Section

end Patchwork
