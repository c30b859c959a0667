import Patchwork.Section.Basic

/-!
# Moving and cutting sections

A section may be moved to other document lines (`Section.shift`) and cut in two before one of its
inner lines (`Section.split`). Neither changes where its lines come from: moving takes from the
offset what it adds to the range, and the two parts of a cut keep the offset.
-/

namespace Patchwork

namespace Section

/-- The section moved down by `n` lines (up, if `n` is negative). -/
def shift (s : Section) (n : Int) : Section where
  path := s.path
  range := s.range.shift n
  lines := s.lines
  offset := s.offset - n
  length_lines := by
    have := s.length_lines
    simp only [LineRange.size, LineRange.shift] at this ⊢
    omega
  one_le_local := by
    have := s.one_le_local
    simp only [LineRange.shift]
    omega

def before (s : Section) (n : Int) (h : s.range.first < n ∧ n ≤ s.range.last) : Section where
  path := s.path
  range := ⟨s.range.first, n - 1, by omega⟩
  lines := s.lines.take (s.index n)
  offset := s.offset
  length_lines := by
    have := s.length_lines
    simp only [LineRange.size, index, List.length_take] at this ⊢
    omega
  one_le_local := s.one_le_local

def since (s : Section) (n : Int) (h : s.range.first < n ∧ n ≤ s.range.last) : Section where
  path := s.path
  range := ⟨n, s.range.last, h.2⟩
  lines := s.lines.drop (s.index n)
  offset := s.offset
  length_lines := by
    have := s.length_lines
    simp only [LineRange.size, index, List.length_drop] at this ⊢
    omega
  one_le_local := by
    have := s.one_le_local
    simp only
    omega

/-- The section cut before the document line `n`, which must be neither its first nor its last. -/
def split (s : Section) (n : Int) : Except Error (Section × Section) :=
  if ¬ s.isSplittable then failFor (.splitOfOneLine s.range)
  else if hm : n ∈ s.range then
    if hf : n = s.range.first then failFor (.splitAtFirst n)
    else if n = s.range.last then failFor (.splitAtLast n)
    else
      have h : s.range.first < n ∧ n ≤ s.range.last := by
        have := LineRange.mem_iff.1 hm
        omega
      .ok (s.before n h, s.since n h)
  else failFor (.splitOutside n s.range)

end Section

end Patchwork
