import Patchwork.Document.Edit
import Patchwork.Text.Blank

/-!
# Inclusion

A directive is a line that names a source; what recognises directives is any function from lines to
`Directive`s. Including (`Document.including`) blanks each directive and splices the source it names
in before the blanked line, over and over, also inside the sources spliced in, until no directive is
left.

The work is a scan over the sections from line 1 on, made of steps (`Scan.step`): the section at the
cursor is searched for its first directive; if there is one, its source is spliced in and the scan
goes on at the beginning of that section, and if there is none, it goes on after the section. The
scan remembers for every included source the sources above it, and refuses a directive that names
one of them or its own source.

Where sources have finitely many texts between them, a scan is over after at most `Scan.roundLimit`
steps.
-/

namespace Patchwork

/-- What a directive captures, and the columns it captures it from. -/
structure Directive where
  captured : String
  startCol : Int
  endCol : Int
deriving DecidableEq

namespace Directive

def target (dir : Directive) : String := Text.trim dir.captured

end Directive

/-- The first directive among the lines of the section, with its document line number. -/
def Section.firstDirective (find : String → Option Directive) (s : Section) :
    Option (Int × Directive) :=
  s.numberedLines.findSome? fun l => (find l.2).map fun dir => (l.1, dir)

/-- Where a scan stands: the document so far, the line it goes on at, and for each source included
so far the sources above it; of several entries for a source the first counts. -/
structure Scan where
  document : Document
  cursor : Int
  above : List (String × List String)

/-- What a step makes of a scan. -/
inductive Progress where
  | finished (document : Document)
  | going (scan : Scan)

namespace Scan

def start (d : Document) : Scan := ⟨d, 1, []⟩

/-- The sources known to be above the one at `path`. -/
def sourcesAbove (above : List (String × List String)) (path : String) : List String :=
  (above.lookup path).getD []

/-- The source at `path` and all that are known to be above it. -/
def chain (above : List (String × List String)) (path : String) : List String :=
  path :: sourcesAbove above path

/-- Remembers that the sources of a chain are above the one at `path`, with those known before. -/
def remember (above : List (String × List String)) (path : String) (chain : List String) :
    List (String × List String) :=
  (path, chain ++ (sourcesAbove above path).filter (· ∉ chain)) :: above

def step (load : Loader) (find : String → Option Directive) (s : Scan) : Except Error Progress :=
  match s.document.sectionAt? s.cursor with
  | none => .ok (.finished s.document)
  | some host =>
    match host.firstDirective find with
    | none => .ok (.going { s with cursor := host.range.last + 1 })
    | some (n, dir) =>
      let path := sourcePath s.document.base dir.target
      let span := (Location.mk host.path (n + host.offset)).span dir.startCol dir.endCol
      let chain := chain s.above host.path
      if path ∈ chain then .error (.reported (.cyclicInclude path host.path) (some span))
      else
        let spliced := do
          let blanked ← s.document.update n Text.blank
          blanked.insertSource load dir.target n
        match spliced with
        | .error e => .error (e.blaming span)
        | .ok d => .ok (.going ⟨d, host.range.first, remember s.above path chain⟩)

/-- At most `rounds` steps of a scan; nothing if it is not over by then. -/
def run (load : Loader) (find : String → Option Directive) :
    (rounds : Nat) → Scan → Option (Except Error Document)
  | 0, _ => none
  | rounds + 1, s =>
    match s.step load find with
    | .error e => some (.error e)
    | .ok (.finished d) => some (.ok d)
    | .ok (.going s') => run load find rounds s'

/-- A number of steps after which a scan of `d` is over: every line leads at most to all lines of
the sources, as often as there can be different sources above one another, and there are no more of
these than lines and blanked lines. -/
def roundLimit (texts : List (List String)) (d : Document) : Nat :=
  let total := texts.flatten.length
  let paths := 2 * (total + d.size)
  d.size * Nat.pow (total + 3) (paths + 1) + d.sections.length + 1

end Scan

/-- The document with every directive, also of the sources included, replaced by what it names and a
blank line. -/
def Document.including (sources : Sources) (find : String → Option Directive) (d : Document) :
    Except Error Document :=
  let rounds := Scan.roundLimit sources.texts d
  (Scan.run sources.load find rounds (.start d)).getD (.error (.fault .unfinished))

end Patchwork
