import Patchwork.Proofs.Section.Entry
import Patchwork.Proofs.Section.Order

/-!
# Changed lines

Changing the text at a line number (`change`) concerns the sections that have the line and no others.
It touches neither ranges nor places, so it can be done before a section is moved or cut as well as
after: at the number to which the line is moved (`change_shift`), and in the part that gets it
(`split_change`).
-/

namespace Patchwork

namespace Section

/-- The section with the text at the document line `n` changed, if it has that line. -/
def change (n : Int) (f : String → String) (s : Section) : Section :=
  if n ∈ s.range then s.modifyLine n f else s

variable {s : Section} {n : Int} {f g : String → String}

theorem change_of_mem (h : n ∈ s.range) : s.change n f = s.modifyLine n f := if_pos h

theorem change_of_not_mem (h : n ∉ s.range) : s.change n f = s := if_neg h

@[simp] theorem path_change (s : Section) (n : Int) (f : String → String) :
    (s.change n f).path = s.path := by
  by_cases h : n ∈ s.range <;> simp [change, h]

@[simp] theorem range_change (s : Section) (n : Int) (f : String → String) :
    (s.change n f).range = s.range := by
  by_cases h : n ∈ s.range <;> simp [change, h]

@[simp] theorem offset_change (s : Section) (n : Int) (f : String → String) :
    (s.change n f).offset = s.offset := by
  by_cases h : n ∈ s.range <;> simp [change, h]

theorem lines_change_of_mem (h : n ∈ s.range) (f : String → String) :
    (s.change n f).lines = s.lines.modify (s.index n) f := by
  rw [change_of_mem h]
  rfl

theorem change_of_lt_first (h : n < s.range.first) : s.change n f = s := by
  apply change_of_not_mem
  intro hn
  have := (LineRange.mem_iff.1 hn).1
  omega

theorem change_of_last_lt (h : s.range.last < n) : s.change n f = s := by
  apply change_of_not_mem
  intro hn
  have := (LineRange.mem_iff.1 hn).2
  omega

/-! ## Twice -/

theorem index_ne {m : Int} (hn : n ∈ s.range) (hm : m ∈ s.range) (h : m ≠ n) :
    s.index m ≠ s.index n := by
  have := (LineRange.mem_iff.1 hn).1
  have := (LineRange.mem_iff.1 hm).1
  unfold index
  omega

theorem change_change (s : Section) (n : Int) (f g : String → String) :
    (s.change n f).change n g = s.change n (g ∘ f) := by
  by_cases h : n ∈ s.range
  · have h' : n ∈ (s.change n f).range := by simpa using h
    ext1
    · simp
    · simp
    · rw [lines_change_of_mem h', lines_change_of_mem h, lines_change_of_mem h]
      simp only [index, range_change]
      exact List.modify_modify_eq f g _ _
    · simp
  · rw [change_of_not_mem h, change_of_not_mem h, change_of_not_mem h]

theorem change_comm (s : Section) {m : Int} (h : m ≠ n) (f g : String → String) :
    (s.change n f).change m g = (s.change m g).change n f := by
  by_cases hn : n ∈ s.range
  · by_cases hm : m ∈ s.range
    · have hn' : n ∈ (s.change m g).range := by simpa using hn
      have hm' : m ∈ (s.change n f).range := by simpa using hm
      have hindex := index_ne hn hm h
      ext1
      · simp
      · simp
      · rw [lines_change_of_mem hm', lines_change_of_mem hn', lines_change_of_mem hn,
          lines_change_of_mem hm]
        simp only [index, range_change] at hindex ⊢
        exact List.modify_modify_ne f g _ (Ne.symm hindex)
      · simp
    · have hm' : m ∉ (s.change n f).range := by simpa using hm
      rw [change_of_not_mem hm, change_of_not_mem hm']
  · have hn' : n ∉ (s.change m g).range := by simpa using hn
    rw [change_of_not_mem hn, change_of_not_mem hn']

/-! ## Entries -/

/-- The text of one entry is changed, and no place. -/
theorem entryAt?_change (s : Section) (n k : Int) (f : String → String) :
    (s.change n f).entryAt? k = (s.entryAt? k).map (Prod.map (if k = n then f else id) id) := by
  by_cases hk : k ∈ s.range
  · apply entryAt?_eq_map (by simp) (by simp) (by simp)
    by_cases hn : n ∈ s.range
    · rw [lines_change_of_mem hn]
      by_cases h : k = n
      · rw [if_pos h, h]
        exact List.getElem?_modify_eq f _ _
      · rw [if_neg h, List.getElem?_modify_ne f _ (index_ne hn hk h).symm, Option.map_id, id]
    · have h : k ≠ n := by
        rintro rfl
        exact hn hk
      rw [change_of_not_mem hn, if_neg h, Option.map_id, id]
  · have hk' : k ∉ (s.change n f).range := by simpa using hk
    rw [entryAt?_of_not_mem hk, entryAt?_of_not_mem hk']
    rfl

/-! ## Moving and cutting -/

/-- A line is changed at the number it has been moved to. -/
theorem change_shift (s : Section) (n k : Int) (f : String → String) :
    (s.shift k).change (n + k) f = (s.change n f).shift k := by
  by_cases h : n ∈ s.range
  · have h' : n + k ∈ (s.shift k).range := add_mem_range_shift.2 h
    ext1
    · simp
    · simp
    · rw [lines_change_of_mem h', index_shift, Int.add_sub_cancel, lines_shift, lines_shift,
        lines_change_of_mem h]
    · simp
  · have h' : n + k ∉ (s.shift k).range := mt add_mem_range_shift.1 h
    rw [change_of_not_mem h, change_of_not_mem h']

section Cut

variable {k : Int}

/-- What is above a cut is changed if the line is. -/
theorem before_change (h : s.range.first < k ∧ k ≤ s.range.last)
    (h' : (s.change n f).range.first < k ∧ k ≤ (s.change n f).range.last) :
    (s.change n f).before k h' = (s.before k h).change n f := by
  have hlines : ((s.change n f).before k h').lines = ((s.before k h).change n f).lines := by
    have htake : ((s.change n f).before k h').lines = (s.change n f).lines.take (s.index k) := by
      simp [before, index]
    by_cases hn : n ∈ s.range
    · rw [htake, lines_change_of_mem hn, List.take_modify]
      have hfirst := (LineRange.mem_iff.1 hn).1
      by_cases hk : n < k
      · have hb : n ∈ (s.before k h).range := LineRange.mem_iff.2 ⟨hfirst, Int.le_sub_one_of_lt hk⟩
        rw [lines_change_of_mem hb]
        rfl
      · have hb : (s.before k h).range.last < n := by
          show k - 1 < n
          omega
        rw [change_of_last_lt hb]
        apply List.modify_eq_self
        rw [List.length_take]
        unfold index
        omega
    · have hb : n ∉ (s.before k h).range := by
        intro hb
        have hbounds : s.range.first ≤ n ∧ n ≤ k - 1 := LineRange.mem_iff.1 hb
        exact hn (LineRange.mem_iff.2 (by omega))
      rw [htake, change_of_not_mem hn, change_of_not_mem hb]
      rfl
  ext1
  · simp [before]
  · simp [before]
  · exact hlines
  · simp [before]

/-- What is from a cut on is changed if the line is. -/
theorem since_change (h : s.range.first < k ∧ k ≤ s.range.last)
    (h' : (s.change n f).range.first < k ∧ k ≤ (s.change n f).range.last) :
    (s.change n f).since k h' = (s.since k h).change n f := by
  have hlines : ((s.change n f).since k h').lines = ((s.since k h).change n f).lines := by
    have hdrop : ((s.change n f).since k h').lines = (s.change n f).lines.drop (s.index k) := by
      simp [since, index]
    by_cases hn : n ∈ s.range
    · rw [hdrop, lines_change_of_mem hn]
      obtain ⟨hfirst, hlast⟩ := LineRange.mem_iff.1 hn
      by_cases hk : n < k
      · have hindex : s.index n < s.index k := by
          unfold index
          omega
        have hs : n < (s.since k h).range.first := hk
        rw [List.drop_modify_of_lt _ _ _ _ hindex, change_of_lt_first hs]
        rfl
      · have hindex : s.index k ≤ s.index n := by
          unfold index
          omega
        have hsub : s.index n - s.index k = (s.since k h).index n := by
          show s.index n - s.index k = (n - k).toNat
          unfold index
          omega
        have hs : n ∈ (s.since k h).range := LineRange.mem_iff.2 ⟨Int.not_lt.1 hk, hlast⟩
        rw [List.drop_modify_of_ge _ _ _ _ hindex, lines_change_of_mem hs, hsub]
        rfl
    · have hs : n ∉ (s.since k h).range := by
        intro hs
        have hbounds : k ≤ n ∧ n ≤ s.range.last := LineRange.mem_iff.1 hs
        exact hn (LineRange.mem_iff.2 (by omega))
      rw [hdrop, change_of_not_mem hn, change_of_not_mem hs]
      rfl
  ext1
  · simp [since]
  · simp [since]
  · exact hlines
  · simp [since]

/-- A changed section is cut where it was cut before, into the changed parts. -/
theorem split_change (s : Section) (n k : Int) (f : String → String) :
    (s.change n f).split k = (s.split k).map (Prod.map (·.change n f) (·.change n f)) := by
  unfold split isSplittable
  simp only [range_change]
  split_ifs
  · rfl
  · rfl
  · show Except.ok _ = Except.ok (_, _)
    rw [before_change, since_change]
  · rfl
  · rfl

end Cut

/-! ## Lists of sections -/

section Lists

variable {l : List Section}

theorem map_change_of_lt_first (h : ∀ s ∈ l, n < s.range.first) : l.map (·.change n f) = l := by
  rw [List.map_congr_left fun s hs => change_of_lt_first (h s hs), List.map_id']

theorem map_change_of_last_lt (h : ∀ s ∈ l, s.range.last < n) : l.map (·.change n f) = l := by
  rw [List.map_congr_left fun s hs => change_of_last_lt (h s hs), List.map_id']

end Lists

end Section

end Patchwork
