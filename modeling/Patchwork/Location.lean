/-!
# Places in sources

A `Location` is a line of a source; a `Span` is a stretch of a source given by its first and last
line and column. Lines and columns count from 1 where they name something that exists, but neither
type insists on it: a span may be wider than the text it points at.
-/

namespace Patchwork

/-- A stretch of the source `file`, both ends included; columns count code points. -/
structure Span where
  file : String
  startLine : Int
  startCol : Int
  endLine : Int
  endCol : Int
deriving DecidableEq

/-- A line of the source at `path`. -/
structure Location where
  path : String
  line : Int
deriving DecidableEq

/-- The start of the span, as `file:line:column`. -/
def Span.render (s : Span) : String := s!"{s.file}:{s.startLine}:{s.startCol}"

namespace Location

def render (l : Location) : String := s!"{l.path}:{l.line}"

def span (l : Location) (startCol endCol : Int) : Span :=
  ⟨l.path, l.line, startCol, l.line, endCol⟩

end Location

end Patchwork
