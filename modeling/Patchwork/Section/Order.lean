import Patchwork.Section.Basic

/-!
# Sections in order

Sections are put in the order of their ranges; sections with one and the same range keep the order
they came in. In an ordered list a line is looked up by `partitionAt`, overlaps show up between
neighbours (`firstOverlap`), and `byRange` lists the sections under their ranges.
-/

namespace Patchwork

namespace Section

/-- The section put before the first one that does not come before it. -/
def orderedInsert (s : Section) : List Section → List Section
  | [] => [s]
  | t :: rest => if s.range.le t.range then s :: t :: rest else t :: orderedInsert s rest

/-- The sections in the order of their ranges, equal ranges as they came. -/
def inOrder (sections : List Section) : List Section := sections.foldr orderedInsert []

/-- The sections before the one that holds the line `n`, that section, and those after it. -/
structure Partition where
  before : List Section
  target : Option Section
  after : List Section
deriving DecidableEq

/-- Splits a list at its first section that holds the line `n`; without one, all sections are
before. -/
def partitionAt (n : Int) : List Section → Partition
  | [] => ⟨[], none, []⟩
  | s :: rest =>
    if n ∈ s.range then ⟨[], some s, rest⟩
    else
      let p := partitionAt n rest
      ⟨s :: p.before, p.target, p.after⟩

/-- Puts the sections in order and splits them around the line `n`. -/
def partition (sections : List Section) (n : Int) : Partition := partitionAt n (inOrder sections)

/-- The first two neighbours of which the second begins before the first has ended. -/
def firstOverlap : List Section → Option (Section × Section)
  | s :: t :: rest =>
    if t.range.first ≤ s.range.last then some (s, t) else firstOverlap (t :: rest)
  | _ => none

/-- Adds the sections to those listed under their ranges so far, unless a range comes twice. -/
def listByRange (listed : List (LineRange × Section)) :
    List Section → Except Error (List (LineRange × Section))
  | [] => .ok listed
  | s :: rest =>
    if s.range ∈ listed.map (·.1) then failFor (.duplicateRange s.range)
    else listByRange (listed ++ [(s.range, s)]) rest

/-- The sections under their ranges, in order. -/
def byRange (sections : List Section) : Except Error (List (LineRange × Section)) :=
  listByRange [] (inOrder sections)

end Section

end Patchwork
