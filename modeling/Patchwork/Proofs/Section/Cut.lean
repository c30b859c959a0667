import Patchwork.Proofs.Section.Algebra

/-!
# Cuts of cuts

A section is cut at its inner lines (`Inner`). Two cuts of one section give the same three parts in
either order (`before_before`, `since_before`, `since_since`), and the parts of a moved section are
the moved parts (`before_shift`, `since_shift`). The equations hold for whole sections, down to the
offset.
-/

namespace Patchwork

namespace Section

/-- The section has the line, and neither as its first nor as its last: it can be cut before it. -/
def Inner (s : Section) (n : Int) : Prop := s.range.first < n ∧ n < s.range.last

variable {s : Section} {n : Int}

theorem Inner.mem (h : s.Inner n) : n ∈ s.range :=
  LineRange.mem_iff.2 ⟨Int.le_of_lt h.1, Int.le_of_lt h.2⟩

/-- The bounds that cutting asks for. -/
theorem Inner.bounds (h : s.Inner n) : s.range.first < n ∧ n ≤ s.range.last :=
  ⟨h.1, Int.le_of_lt h.2⟩

theorem not_inner_iff (h : n ∈ s.range) :
    ¬s.Inner n ↔ s.size = 1 ∨ n = s.range.first ∨ n = s.range.last := by
  obtain ⟨hfirst, hlast⟩ := LineRange.mem_iff.1 h
  have hsize := s.last_eq
  unfold Inner
  omega

theorem exists_split_iff : (∃ parts, s.split n = .ok parts) ↔ s.Inner n := by
  constructor
  · rintro ⟨⟨upper, lower⟩, h⟩
    obtain ⟨hn, -, -⟩ := split_eq_ok.1 h
    exact hn
  · intro h
    exact ⟨_, split_of_inner h⟩

/-- The bounds of the parts of a cut. -/
theorem split_bounds {upper lower : Section} (h : s.split n = .ok (upper, lower)) :
    upper.range.first = s.range.first ∧ upper.range.last = n - 1 ∧ lower.range.first = n ∧
      lower.range.last = s.range.last ∧ s.range.first < n ∧ n < s.range.last := by
  obtain ⟨⟨h₁, h₂⟩, rfl, rfl⟩ := split_eq_ok.1 h
  exact ⟨rfl, rfl, rfl, rfl, h₁, h₂⟩

theorem size_of_split {upper lower : Section} (h : s.split n = .ok (upper, lower)) :
    upper.size + lower.size = s.size := by
  obtain ⟨e₁, e₂, e₃, e₄, h₁, h₂⟩ := split_bounds h
  have hs := s.last_eq
  have hu := upper.last_eq
  have hl := lower.last_eq
  omega

theorem offset_of_split {upper lower : Section} (h : s.split n = .ok (upper, lower)) :
    upper.offset = s.offset ∧ lower.offset = s.offset := by
  obtain ⟨_, rfl, rfl⟩ := split_eq_ok.1 h
  exact ⟨rfl, rfl⟩

theorem lines_of_split {upper lower : Section} (h : s.split n = .ok (upper, lower)) :
    upper.lines ++ lower.lines = s.lines := by
  obtain ⟨_, rfl, rfl⟩ := split_eq_ok.1 h
  exact List.take_append_drop _ _

/-! ## Two cuts -/

section TwoCuts

variable {i j : Int} (hi : s.range.first < i ∧ i ≤ s.range.last)
  (hj : s.range.first < j ∧ j ≤ s.range.last)

theorem before_before (h : (s.before j hj).range.first < i ∧ i ≤ (s.before j hj).range.last) :
    (s.before j hj).before i h = s.before i hi := by
  have hij : i ≤ j - 1 := h.2
  have hindex : min (s.index i) (s.index j) = s.index i := by
    unfold index
    omega
  ext1
  · rfl
  · rfl
  · show (s.lines.take (s.index j)).take (s.index i) = s.lines.take (s.index i)
    rw [List.take_take, hindex]
  · rfl

theorem since_before (h : (s.before j hj).range.first < i ∧ i ≤ (s.before j hj).range.last)
    (h' : (s.since i hi).range.first < j ∧ j ≤ (s.since i hi).range.last) :
    (s.before j hj).since i h = (s.since i hi).before j h' := by
  have hindex : s.index j - s.index i = (j - i).toNat := by
    unfold index
    omega
  ext1
  · rfl
  · rfl
  · show (s.lines.take (s.index j)).drop (s.index i) = (s.lines.drop (s.index i)).take (j - i).toNat
    rw [List.drop_take, hindex]
  · rfl

theorem since_since (h : (s.since i hi).range.first < j ∧ j ≤ (s.since i hi).range.last) :
    (s.since i hi).since j h = s.since j hj := by
  have hij : i < j := h.1
  have hindex : s.index i + (j - i).toNat = s.index j := by
    unfold index
    omega
  ext1
  · rfl
  · rfl
  · show (s.lines.drop (s.index i)).drop (j - i).toNat = s.lines.drop (s.index j)
    rw [List.drop_drop, hindex]
  · rfl

end TwoCuts

/-! ## Cutting moved sections -/

section Moved

variable {k : Int} (h : s.range.first < n ∧ n ≤ s.range.last)
  (h' : (s.shift k).range.first < n + k ∧ n + k ≤ (s.shift k).range.last)

theorem index_shift (s : Section) (k n : Int) : (s.shift k).index n = s.index (n - k) := by
  simp only [index, range_shift, LineRange.first_shift]
  omega

theorem before_shift : (s.shift k).before (n + k) h' = (s.before n h).shift k := by
  ext1
  · rfl
  · ext1
    · rfl
    · show n + k - 1 = n - 1 + k
      omega
  · show s.lines.take ((s.shift k).index (n + k)) = s.lines.take (s.index n)
    rw [index_shift, Int.add_sub_cancel]
  · rfl

theorem since_shift : (s.shift k).since (n + k) h' = (s.since n h).shift k := by
  ext1
  · rfl
  · rfl
  · show s.lines.drop ((s.shift k).index (n + k)) = s.lines.drop (s.index n)
    rw [index_shift, Int.add_sub_cancel]
  · rfl

end Moved

end Section

end Patchwork
