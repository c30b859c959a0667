import Patchwork.Command.Arguments
import Patchwork.Config
import Patchwork.Diagnostic.Render

/-!
# The program

`Command.run` is what the program does with its arguments in a file system: it prints a document,
the place of one of its lines, or a list of its sections. Reported errors are drawn as diagnostics
on the error stream and end the program with exit code 1; a command line that is not understood ends
it with exit code 2; a fault gets through to whoever called.
-/

namespace Patchwork.Command

/-- What the program has printed, and how it has ended. -/
structure Report where
  exitCode : Nat
  out : String
  err : String
  /-- The fault that nothing has dealt with, if there was one. -/
  escaped : Option Error
  /-- The source that was not available, if that is why the program failed. -/
  unavailable : Option String

/-- How a run of the program ends. -/
inductive Outcome where
  | misused
  /-- The program did its work or failed at it. With `logged`, there are log lines on the error
  stream as well. -/
  | done (report : Report) (logged : Bool)

/-- The documents the program works on, and how it shows errors. -/
structure Setting where
  fs : FileSystem
  config : Option String
  color : Bool

namespace Report

/-- The program printed a text and a line end. -/
def printed (text : String) : Report := ⟨0, text ++ "\n", "", none, none⟩

/-- The program failed with a message on the error stream. -/
def failed (message : String) : Report := ⟨1, "", message ++ "\n", none, none⟩

def uncaught (e : Error) : Report := ⟨1, "", "", some e, none⟩

def silent : Report := ⟨0, "", "", none, none⟩

def stripped (r : Report) : Report := { r with out := Ansi.strip r.out, err := Ansi.strip r.err }

end Report

/-! ## The document -/

def isMissingFile : Error → Bool
  | .fault .configNotFound => true
  | .fault (.access (.blocked .missing _)) => true
  | _ => false

/-- The configuration for a source: the one given, or else the nearest one found, or else the
defaults. -/
def configFor (s : Setting) (source : String) : Except Error Config :=
  match s.config with
  | some path => Config.load s.fs path
  | none =>
    let found := do Config.load s.fs (← Config.find s.fs source).render
    match found with
    | .error e => if isMissingFile e then Config.ofSource s.fs source else .error e
    | .ok c => .ok c

/-- The document of a source, with all its macros applied. -/
def document (s : Setting) (source : String) : Except Error Document := do
  let c ← configFor s source
  let path ← faultOfAccess (s.fs.resolve source)
  let invocations ← c.invocations
  Document.readAndInvoke (.ofFiles s.fs) (some c.basePath) path.render invocations

/-- The source that an error is about, if it is that the source is not available. -/
def unavailableSource? : Cause → Option String
  | .unavailable path _ => some path
  | _ => none

/-- The report for an error: a diagnostic if there is one for it. -/
def reportError (s : Setting) : Error → Report
  | .reported cause span =>
    match Renderer.drawAlone ⟨s.fs.load, s.color⟩ (cause.diagnostic span) with
    | .ok text => { Report.failed text with unavailable := unavailableSource? cause }
    | .error e => .uncaught e
  | .fault f => .uncaught (.fault f)

/-! ## Commands -/

/-- A text line behind its number, in a column of the given width, and its place. -/
def numberedRow (width n : Nat) (place : Location) (text : String) : String :=
  s!"{Text.alignRight width (toString n)} {place.render} | {text}"

/-- The rows of texts from line `n` on, up to the first line that has no place, and why it has none,
if there is one. -/
def numberedRows (d : Document) (width : Nat) : Nat → List String → List String × Option Error
  | _, [] => ([], none)
  | n, text :: rest =>
    match d.resolve n with
    | .error e => ([], some e)
    | .ok place =>
      let (rows, failure) := numberedRows d width (n + 1) rest
      (numberedRow width n place text :: rows, failure)

/-- The range, the offset and the path of a section. -/
def sectionRow (s : Section) : String :=
  s!"{Text.alignLeft 12 s.range.render} {Text.alignRight 6 (toString s.offset)}  {s.path}"

def rowsReport (rows : List String) : Report :=
  { Report.silent with out := String.join (rows.map (· ++ "\n")) }

def renderPlain (d : Document) : Report := .printed (Text.joinLines d.lines)

/-- The document with a number and a place before every line. What is printed before a failure stays
printed. -/
def renderNumbered (d : Document) : Report :=
  let (rows, failure) := numberedRows d (toString d.lastLine).length 1 d.lines
  match failure with
  | none => rowsReport rows
  | some e => { Report.uncaught e with out := (rowsReport rows).out }

def resolveLine (d : Document) (n : Int) : Report :=
  match d.resolve n with
  | .ok place => .printed place.render
  | .error (.reported cause _) => .failed s!"error: {cause.message}"
  | .error (.fault f) => .uncaught (.fault f)

def listSections (d : Document) : Report := rowsReport (d.sections.map sectionRow)

/-- Does the task with the document of `source`. -/
def perform (s : Setting) (source : String) (work : Document → Report) : Report :=
  match document s source with
  | .ok d => work d
  | .error e => reportError s e

/-! ## From arguments to reports -/

/-- What an operand that has to be a file turns out to be. -/
inductive FileCheck where
  | good
  | bad
  | fault (e : Error)

/-- An operand has to lead to something that is not a directory. -/
def checkFile (fs : FileSystem) (path : String) : FileCheck :=
  if FileSystem.hasNull path then .fault (.fault (.access .nullInPath))
  else
    match fs.find path with
    | .ok (.file _) => .good
    | _ => .bad

/-- Goes on with an operand that is a file. -/
def withFile (fs : FileSystem) (path : String) (logged : Bool) (next : Outcome) : Outcome :=
  match checkFile fs path with
  | .good => next
  | .bad => .misused
  | .fault e => .done (.uncaught e) logged

def runTask (s : Setting) (logged : Bool) (task : Task) (operands : List String) : Outcome :=
  match operands with
  | [] => .misused
  | file :: rest =>
    withFile s.fs file logged <|
      match task, rest with
      | .render numbered, [] =>
        .done (perform s file (if numbered then renderNumbered else renderPlain)) logged
      | .sections, [] => .done (perform s file listSections) logged
      | .resolve, [line] =>
        match number? line with
        | some n => .done (perform s file fun d => resolveLine d n) logged
        | none => .misused
      | _, _ => .misused

/-- The name of the command, with its options and operands. -/
def runCommand (s : Setting) (logged : Bool) : List String → Outcome
  | [] => .misused
  | command :: arguments =>
    match (commandOptions command).split arguments with
    | none => .misused
    | some split =>
      match task? command split with
      | none => .misused
      | some task =>
        if split.has "--help" then .done .silent logged
        else runTask s logged task split.operands

def versionText : String := "logical-file, version 0.1.0"

/-- The program before what it prints reaches its streams. -/
def runWithSequences (fs : FileSystem) (arguments : List String) : Outcome :=
  if arguments.isEmpty then .misused
  else
    match programOptions.split arguments with
    | none => .misused
    | some split =>
      let logged := split.has "--verbose"
      if split.has "--version" then .done (.printed versionText) logged
      else if split.has "--help" then .done .silent logged
      else
        let config := split.value? "--config"
        let s : Setting := ⟨fs, config, !split.has "--no-color"⟩
        let next := runCommand s logged split.operands
        match config with
        | some path => withFile fs path logged next
        | none => next

/-- The program. Only a terminal gets escape sequences: otherwise they are taken out of all that is
printed. -/
def run (fs : FileSystem) (terminal : Bool) (arguments : List String) : Outcome :=
  match runWithSequences fs arguments with
  | .done report logged => .done (if terminal then report else report.stripped) logged
  | .misused => .misused

end Patchwork.Command
