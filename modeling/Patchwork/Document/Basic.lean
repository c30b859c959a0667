import Patchwork.Section.Order
import Patchwork.Source.Basic

/-!
# Documents

A `Document` is a list of sections and the base path its sources are found from. `Document.assemble`
puts sections in order and refuses overlaps. Line numbers are looked up in the first section whose
range holds them, and from there resolved to a line of its source.
-/

namespace Patchwork

/-- Sections in stored order, and the path that the paths of further sources start from. -/
structure Document where
  base : Option String
  sections : List Section
deriving DecidableEq

namespace Document

/-- The document made of the sections, which may come in any order but must not overlap. -/
def assemble (base : Option String) (sections : List Section) : Except Error Document :=
  let ordered := Section.inOrder sections
  match Section.firstOverlap ordered with
  | some (s, t) => failFor (.overlap t.range t.path s.range s.path)
  | none => .ok ⟨base, ordered⟩

def withSections (d : Document) (sections : List Section) : Except Error Document :=
  assemble d.base sections

/-- The document that holds the whole of one source. -/
def read (load : Loader) (base : Option String) (source : String) : Except Error Document := do
  let s ← Section.load load (sourcePath base source)
  return ⟨base, [s]⟩

/-- The section that holds the line `n`, the first if there are several. -/
def sectionAt? (d : Document) (n : Int) : Option Section :=
  d.sections.find? fun s => n ∈ s.range

/-- The last line of the last section; zero where there are no sections. -/
def lastLine (d : Document) : Int :=
  match d.sections.getLast? with
  | some s => s.range.last
  | none => 0

def lines (d : Document) : List String := d.sections.flatMap (·.lines)

def size (d : Document) : Nat := Section.totalSize d.sections

/-- Does a section come from the source at `path`? -/
def containsSource (d : Document) (path : String) : Bool := d.sections.any fun s => s.path = path

def owner (d : Document) (n : Int) : Except Error Section :=
  match d.sectionAt? n with
  | some s => .ok s
  | none => failFor (.lineOutsideDocument n d.lastLine)

def line (d : Document) (n : Int) : Except Error String := do
  let s ← d.owner n
  s.line n

def resolve (d : Document) (n : Int) : Except Error Location := do
  let s ← d.owner n
  s.resolve n

/-- Every line in stored order, each with the place it comes from. -/
def located (d : Document) : List (String × Location) :=
  d.sections.flatMap fun s =>
    s.numberedLines.map fun l => (l.2, ⟨s.path, l.1 + s.offset⟩)

end Document

end Patchwork
