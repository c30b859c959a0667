/-!
# Line ranges

A `LineRange` is a closed, non-empty interval `[first, last]` of document line numbers. Line numbers
are integers of any size, since a range may be moved anywhere; ranges are ordered by first line,
then by last line.
-/

namespace Patchwork

/-- The lines `first, first + 1, …, last`; there is at least one. -/
structure LineRange where
  first : Int
  last : Int
  first_le_last : first ≤ last
deriving DecidableEq

namespace LineRange

/-- The range from `first` to `last`, if it holds a line. -/
def ofBounds? (first last : Int) : Option LineRange :=
  if h : first ≤ last then some ⟨first, last, h⟩ else none

def single (n : Int) : LineRange := ⟨n, n, Int.le_refl n⟩

instance : Inhabited LineRange := ⟨single 1⟩

instance : Membership Int LineRange := ⟨fun r n => r.first ≤ n ∧ n ≤ r.last⟩

theorem mem_iff {r : LineRange} {n : Int} : n ∈ r ↔ r.first ≤ n ∧ n ≤ r.last := Iff.rfl

instance (n : Int) (r : LineRange) : Decidable (n ∈ r) :=
  inferInstanceAs (Decidable (r.first ≤ n ∧ n ≤ r.last))

def size (r : LineRange) : Nat := (r.last - r.first + 1).toNat

/-- The largest number of lines a range may hold and still be counted: the greatest signed number of
64 bits. -/
def sizeLimit : Nat := 0x7fffffffffffffff

theorem size_eq (r : LineRange) : (r.size : Int) = r.last - r.first + 1 := by
  have := r.first_le_last
  unfold size
  omega

theorem size_pos (r : LineRange) : 0 < r.size := by
  have := r.size_eq
  have := r.first_le_last
  omega

def toList (r : LineRange) : List Int := (List.range r.size).map fun (i : Nat) => r.first + i

/-- The range moved down by `n` lines (up, if `n` is negative). -/
def shift (r : LineRange) (n : Int) : LineRange :=
  ⟨r.first + n, r.last + n, Int.add_le_add_right r.first_le_last n⟩

/-- Ranges compare by first line, and by last line where the first lines agree. -/
protected def lt (r s : LineRange) : Bool :=
  r.first < s.first || (r.first == s.first && r.last < s.last)

protected def le (r s : LineRange) : Bool :=
  r.first < s.first || (r.first == s.first && r.last ≤ s.last)

/-- The bounds with two dots between them, as ranges are written in messages and listings. -/
def render (r : LineRange) : String := s!"{r.first}..{r.last}"

end LineRange

end Patchwork
