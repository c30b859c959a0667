import Patchwork.Diagnostic.Basic
import Patchwork.Source.Basic
import Patchwork.Text.Align
import Patchwork.Text.Ansi
import Patchwork.Text.Lines

/-!
# Drawing diagnostics

A diagnostic is drawn as rows: a header, for each label its place with an excerpt of the source, and
the notes. If the source can be read and has the line that the label starts on, the excerpt shows
that line behind its number, and carets in the row below if the label stays on it.

What has been read of the sources is kept from one diagnostic to the next (`Excerpts`), so drawing
is an action that may also fail, namely where reading a source is a fault rather than an error.
-/

namespace Patchwork

namespace Severity

def attributes : Severity → String
  | error => "1;31"
  | warning => "1;33"
  | note => "1;36"

end Severity

/-- The sources looked at so far, with their lines, or nothing where they cannot be read. -/
abbrev Excerpts := List (String × Option (List String))

/-- An action that may look at sources, and may fail. -/
abbrev Drawing := ExceptT Error (StateM Excerpts)

/-- What diagnostics are drawn with: where sources are read, and whether there are colours. -/
structure Renderer where
  load : Loader
  color : Bool

namespace Renderer

/-! ## Pieces of rows -/

/-- Sets display attributes, if there are colours. -/
def paint (r : Renderer) (attributes : String) : String :=
  if r.color then Ansi.attributes attributes else ""

def plain (r : Renderer) : String := r.paint "0"

def painted (r : Renderer) (attributes text : String) : String :=
  r.paint attributes ++ text ++ r.plain

/-- The attributes of what frames an excerpt. -/
def frame : String := "1;34"

/-- A row that begins with a mark of the frame. -/
def framed (r : Renderer) (mark text : String) : String :=
  "  " ++ r.painted frame mark ++ text

/-- The character so many times; a number that cannot be counted to is a fault. -/
def repeated (c : Char) (n : Int) : Except Error String :=
  if -(LineRange.sizeLimit + 1 : Int) ≤ n ∧ n ≤ LineRange.sizeLimit then
    .ok (String.ofList (List.replicate n.toNat c))
  else .error (.fault .uncountable)

/-! ## Rows -/

def header (r : Renderer) (d : Diagnostic) : String :=
  r.painted d.severity.attributes s!"{d.severity.word}[{d.code}]" ++ r.painted "1" s!": {d.message}"

/-- The line the span starts on, behind its number. -/
def sourceRow (r : Renderer) (span : Span) (source : String) : String :=
  r.framed (Text.alignRight 4 (toString span.startLine) ++ " |") (" " ++ source)

/-- Carets below the columns of the span, at least one. -/
def caretRow (r : Renderer) (severity : Severity) (span : Span) : Except Error String := do
  let padding ← repeated ' ' (span.startCol - 1)
  let carets ← repeated '^' (max 1 (span.endCol - span.startCol + 1))
  return r.framed "   |" (" " ++ padding ++ r.painted severity.attributes carets)

def messageRow (r : Renderer) (severity : Severity) (message : String) : String :=
  r.framed "   |" ("   " ++ r.painted severity.attributes message)

/-- The excerpt for a span whose first line is known. -/
def excerptRows (r : Renderer) (severity : Severity) (span : Span) (source : String) :
    Except Error (List String) := do
  if span.startLine = span.endLine then
    return [r.sourceRow span source, ← r.caretRow severity span]
  else
    return [r.sourceRow span source]

/-- The rows of a label, given the line it starts on if that is known. -/
def labelRows (r : Renderer) (severity : Severity) (label : Label) (source : Option String) :
    Except Error (List String) := do
  let place := r.framed "-->" (" " ++ label.span.render)
  let gap := r.framed "   |" ""
  let excerpt ←
    match source with
    | some s => r.excerptRows severity label.span s
    | none => pure []
  let message := if label.message = "" then [] else [r.messageRow severity label.message]
  return place :: gap :: excerpt ++ message

def noteRow (r : Renderer) (note : String) : String := r.framed "=" s!" note: {note}"

/-! ## Looking at sources -/

/-- The lines of a source as far as they can be read; a source that cannot be read has none. -/
def lookAt (load : Loader) (path : String) : Except Error (Option (List String)) :=
  match load path with
  | .ok ls => .ok (some ls)
  | .error (.reported cause span) =>
    if cause.kind = .source then .ok none else .error (.reported cause span)
  | .error (.fault f) => .error (.fault f)

/-- The lines of a source, read the first time they are asked for. -/
def linesOf (r : Renderer) (path : String) : Drawing (Option (List String)) := do
  match (← get).lookup path with
  | some known => return known
  | none =>
    let found ← liftExcept (lookAt r.load path)
    modify fun excerpts => (path, found) :: excerpts
    return found
where
  /-- An answer that needs no sources. -/
  liftExcept {α : Type} (x : Except Error α) : Drawing α := ExceptT.mk (pure x)

/-- The line `n`, counted from 1. -/
def nth (ls : List String) (n : Int) : Option String :=
  if 1 ≤ n then ls[(n - 1).toNat]? else none

def startOf (r : Renderer) (span : Span) : Drawing (Option String) := do
  return (← r.linesOf span.file).bind fun ls => nth ls span.startLine

/-! ## Whole diagnostics -/

def allLabelRows (r : Renderer) (severity : Severity) : List Label → Drawing (List String)
  | [] => return []
  | label :: rest => do
    let source ← r.startOf label.span
    let rows ← ExceptT.mk (pure (r.labelRows severity label source))
    return rows ++ (← allLabelRows r severity rest)

def draw (r : Renderer) (d : Diagnostic) : Drawing String := do
  let rows ← r.allLabelRows d.severity d.labels
  return Text.joinLines (r.header d :: rows ++ d.notes.map r.noteRow)

/-- Draws one diagnostic without having looked at any source before. -/
def drawAlone (r : Renderer) (d : Diagnostic) : Except Error String := ((r.draw d).run.run []).1

/-- Draws diagnostics one after the other; each has its own answer. -/
def drawAll (r : Renderer) (ds : List Diagnostic) : List (Except Error String) :=
  ((ds.mapM fun d => (r.draw d).run).run []).1

end Renderer

end Patchwork
