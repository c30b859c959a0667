import Patchwork.Error

/-!
# Sections

A `Section` holds consecutive lines of one source and says where they stand in the document: its
range gives their document line numbers, and adding its offset to one of these gives the line's
number in the source. A section has exactly one line of text for each line of its range, and its
first line is at least line 1 of the source; both are part of the type, so whatever has been done to
a section they hold.
-/

namespace Patchwork

/-- The number of lines of a range, if it can be counted. -/
def LineRange.count (r : LineRange) : Except Error Nat :=
  if sizeLimit < r.size then .error (.fault .uncountable) else .ok r.size

/-- Lines of the source `path` at the document lines of `range`. -/
structure Section where
  path : String
  range : LineRange
  lines : List String
  offset : Int
  length_lines : lines.length = range.size
  one_le_local : 1 ≤ range.first + offset
deriving DecidableEq

namespace Section

/-- The section with the given parts, if they fit together. A range too long to be counted cannot
even be compared with the lines. -/
def ofParts (path : String) (range : LineRange) (lines : List String) (offset : Int) :
    Except Error Section :=
  if LineRange.sizeLimit < range.size then .error (.fault .uncountable)
  else if hl : lines.length = range.size then
    if ho : 1 ≤ range.first + offset then .ok ⟨path, range, lines, offset, hl, ho⟩
    else failFor (.localLine offset range.first path)
  else failFor (.lineCount range lines.length path)

/-- The whole of a source as the section that begins at line 1; a source without lines has none. -/
def ofSource (path : String) (lines : List String) : Except Error Section :=
  if h : lines = [] then failFor (.emptySource path)
  else
    have hpos : 0 < lines.length := List.length_pos_iff.2 h
    .ok {
      path, lines
      range := ⟨1, lines.length, by omega⟩
      offset := 0
      length_lines := by simp only [LineRange.size]; omega
      one_le_local := by simp }

def size (s : Section) : Nat := s.lines.length

theorem size_pos (s : Section) : 0 < s.size := by
  have := s.range.size_pos
  rwa [size, s.length_lines]

/-- The place of the document line `n` among the lines of the section. -/
def index (s : Section) (n : Int) : Nat := (n - s.range.first).toNat

theorem index_lt {s : Section} {n : Int} (h : n ∈ s.range) : s.index n < s.lines.length := by
  have := s.range.size_eq
  have := s.length_lines
  have := LineRange.mem_iff.1 h
  unfold index
  omega

def line (s : Section) (n : Int) : Except Error String :=
  if h : n ∈ s.range then .ok (s.lines.get ⟨s.index n, index_lt h⟩)
  else failFor (.lineOutsideSection n s.range)

def numberedLines (s : Section) : List (Int × String) := s.range.toList.zip s.lines

/-- The first line that satisfies `p`, with its document line number. -/
def firstMatching (s : Section) (p : String → Bool) : Option (Int × String) :=
  s.numberedLines.find? fun l => p l.2

/-- All lines that satisfy `p`, with their document line numbers. -/
def allMatching (s : Section) (p : String → Bool) : List (Int × String) :=
  s.numberedLines.filter fun l => p l.2

def isSplittable (s : Section) : Bool := 1 < s.range.size

def resolve (s : Section) (n : Int) : Except Error Location :=
  if n ∈ s.range then .ok ⟨s.path, n + s.offset⟩ else failFor (.unresolvedLine n s.range)

/-- The section with the text at the document line `n`, one of its lines, changed. -/
def modifyLine (s : Section) (n : Int) (f : String → String) : Section :=
  { s with lines := s.lines.modify (s.index n) f, length_lines := by simp [s.length_lines] }

/-- The section with the text at the document line `n` changed, if it has that line. -/
def update (s : Section) (n : Int) (f : String → String) : Except Error Section :=
  if n ∈ s.range then .ok (s.modifyLine n f) else failFor (.lineOutsideSection n s.range)

def totalSize : List Section → Nat
  | [] => 0
  | s :: rest => s.size + totalSize rest

end Section

end Patchwork
