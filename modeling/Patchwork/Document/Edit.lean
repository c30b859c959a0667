import Patchwork.Document.Basic
import Patchwork.Section.Split

/-!
# Editing documents

A document is edited in two ways: the text of one line is changed (`Document.update`), or a
section is spliced in so that its first line gets a given number (`Document.insert`), which cuts the
section that held that line and moves down all that follows.
-/

namespace Patchwork

namespace Document

/-- The sections with `updated` in the place of the first one that holds the line `n`. -/
def replaceAt (n : Int) (updated : Section) : List Section → List Section
  | [] => []
  | s :: rest => if n ∈ s.range then updated :: rest else s :: replaceAt n updated rest

/-- The document with the line `n` changed in the section that holds it. That section alone is
replaced: the places of a document hold different sections, equal or not. -/
def update (d : Document) (n : Int) (f : String → String) : Except Error Document := do
  let target ← d.owner n
  let updated ← target.update n f
  return { d with sections := replaceAt n updated d.sections }

/-- The document with the section `s` moved so that it begins at the line `n`; what was there and
below moves down by as many lines as `s` has. -/
def insert (d : Document) (s : Section) (n : Int) : Except Error Document :=
  let parts := Section.partition d.sections n
  match parts.target with
  | none => failFor (.insertOutside n)
  | some target => do
    let (upper, lower) ← target.split n
    let inserted := s.shift (upper.range.last - s.range.first + 1)
    let moved := (lower :: parts.after).map (·.shift s.size)
    d.withSections (parts.before ++ upper :: inserted :: moved)

/-- The document with the whole of a source spliced in at the line `n`. -/
def insertSource (load : Loader) (d : Document) (source : String) (n : Int) :
    Except Error Document := do
  let s ← Section.load load (sourcePath d.base source)
  d.insert s n

end Document

end Patchwork
