import Patchwork.FileTree
import Patchwork.LineRange
import Patchwork.Location
import Patchwork.Text.Utf8

/-!
# Failures

An operation fails with an `Error`. Most errors are *reported*: they have a cause, which belongs to
one of six kinds, and perhaps the span that is to blame, and can be shown as a diagnostic. A *fault*
is a failure that has no diagnostic: nothing between the place where it arises and the outermost
caller deals with it.

The causes are data; `Cause.message` and `Cause.notes` hold their wording. It is complete but for
two causes, a pattern that does not read as one and a configuration file that is no table: what the
reader of patterns or of tables has to say about the place where it stopped would follow their
message after a colon, and is left out.
-/

namespace Patchwork

inductive ErrorKind where
  /-- A range, a section or a document does not fit together. -/
  | construction
  /-- A line or a split point lies outside what it is asked of. -/
  | range
  /-- A macro or a configuration file is malformed. -/
  | configuration
  | source
  /-- A section is to be inserted where there is none to split. -/
  | partition
  /-- A source includes itself, directly or through others. -/
  | cycle
deriving DecidableEq

def ErrorKind.code : ErrorKind → String
  | construction => "L001"
  | range => "L002"
  | configuration => "L003"
  | source => "L004"
  | partition => "L005"
  | cycle => "L006"

/-- Why a source has no lines to give. -/
inductive Unavailability where
  | blocked (obstacle : Obstacle) (opened : String)
  | malformed (sequence : Text.Malformed)
  /-- It is not among the sources kept in memory. -/
  | unlisted
  /-- It is among them, but marked as not to be given out. -/
  | refused
deriving DecidableEq

inductive Cause where
  | emptyRange (first last : Int)
  | lineCount (range : LineRange) (given : Nat) (path : String)
  | localLine (offset first : Int) (path : String)
  | emptySource (path : String)
  | overlap (range : LineRange) (path : String) (before : LineRange) (pathBefore : String)
  | duplicateRange (range : LineRange)
  | unresolvedLine (line : Int) (range : LineRange)
  | lineOutsideSection (line : Int) (range : LineRange)
  | splitOfOneLine (range : LineRange)
  | splitOutside (line : Int) (range : LineRange)
  | splitAtFirst (line : Int)
  | splitAtLast (line : Int)
  | lineOutsideDocument (line last : Int)
  | optionsNotTable (name given : String)
  | optionMissing (name key : String)
  | patternInvalid (name source : String)
  | patternExpected (name key given : String)
  | captureMissing (name source : String)
  | unknownMacro (name : String) (available : List String)
  | configInvalid (fileName : String)
  | documentNotTable
  | basePathNotText
  | macrosNotNames
  | macrosNotTable
  | macroNotTable (name : String)
  | unavailable (path : String) (why : Unavailability)
  | insertOutside (line : Int)
  | cyclicInclude (target : String) (source : String)
deriving DecidableEq

namespace Cause

def kind : Cause → ErrorKind
  | emptyRange .. | lineCount .. | localLine .. | emptySource .. | overlap .. | duplicateRange .. =>
    .construction
  | unresolvedLine .. | lineOutsideSection .. | splitOfOneLine .. | splitOutside ..
  | splitAtFirst .. | splitAtLast .. | lineOutsideDocument .. => .range
  | optionsNotTable .. | optionMissing .. | patternInvalid .. | patternExpected ..
  | captureMissing .. | unknownMacro .. | configInvalid .. | documentNotTable | basePathNotText
  | macrosNotNames | macrosNotTable | macroNotTable .. => .configuration
  | unavailable .. => .source
  | insertOutside .. => .partition
  | cyclicInclude .. => .cycle

/-- The wording. That of `patternInvalid` and `configInvalid` ends before the words of a reader. -/
def message : Cause → String
  | emptyRange first last => s!"empty line range {first}..{last}"
  | lineCount range given path =>
    s!"range {range.render} holds {range.size} line(s) but {given} were given for {path}"
  | localLine offset first path =>
    s!"offset {offset} maps line {first} of {path} to local line {first + offset}"
  | emptySource path => s!"source '{path}' contains no lines"
  | overlap range path before pathBefore =>
    s!"section {range.render} ({path}) overlaps {before.render} ({pathBefore})"
  | duplicateRange range => s!"duplicate section range {range.render}"
  | unresolvedLine line range =>
    s!"cannot resolve logical line {line} outside section range {range.render}"
  | lineOutsideSection line range => s!"section ({range.render}) does not contain line {line}"
  | splitOfOneLine range => s!"cannot split a section containing one line ({range.render})"
  | splitOutside line range => s!"split point {line} outside section range {range.render}"
  | splitAtFirst line => s!"cannot set split point on first line ({line})"
  | splitAtLast line => s!"cannot set split point on last line ({line})"
  | lineOutsideDocument line last => s!"line {line} is outside the logical file (1..{last})"
  | optionsNotTable name given => s!"{name}: options must be a mapping, got {given}"
  | optionMissing name key => s!"{name}: missing required option '{key}'"
  | patternInvalid name source => s!"{name}: invalid pattern {Text.quoted source}"
  | patternExpected name key given =>
    s!"{name}: option '{key}' must be a regular expression, got {given}"
  | captureMissing name source => s!"{name}: pattern {Text.quoted source} must capture 'file'"
  | unknownMacro name _ => s!"unknown macro '{name}'"
  | configInvalid fileName => s!"invalid {fileName}"
  | documentNotTable => "[document] must be a table"
  | basePathNotText => "document.base_path must be a string"
  | macrosNotNames => "document.macros must be a list of macro names"
  | macrosNotTable => "[macros] must be a table"
  | macroNotTable name => s!"[macros.{name}] must be a table"
  | unavailable path (.blocked obstacle opened) =>
    s!"cannot read source '{path}': {(AccessFailure.blocked obstacle opened).message}"
  | unavailable path (.malformed sequence) => s!"cannot read source '{path}': {sequence.message}"
  | unavailable path .unlisted => s!"no source '{path}'"
  | unavailable _ .refused => "refused"
  | insertOutside line => s!"unable to partition: line {line} is not in any source section"
  | cyclicInclude target _ => s!"cyclic include of '{target}'"

/-- What else there is to say about a cause. -/
def notes : Cause → List String
  | captureMissing .. => ["use a named group, e.g. %\\((?P<file>.*)\\)"]
  | unknownMacro _ available => ["available macros: " ++ String.intercalate ", " available]
  | cyclicInclude target source => [s!"'{target}' is already being included above '{source}'"]
  | _ => []

end Cause

/-- A failure that is not turned into a diagnostic. -/
inductive Fault where
  /-- A number is too large to count with. -/
  | uncountable
  | noTransformation
  /-- A file was asked for that cannot be opened. -/
  | access (failure : AccessFailure)
  /-- A file that has to be text is not UTF-8. -/
  | malformed (sequence : Text.Malformed)
  /-- There is no configuration file at or above the place. -/
  | configNotFound
  /-- An option has a name that macros keep for themselves. -/
  | reservedOption (name : String)
  /-- A number in a configuration file has too many decimal digits. -/
  | numberTooLong (digits : Nat)
  | unfinished
deriving DecidableEq

def Fault.message : Fault → String
  | uncountable => "cannot fit 'int' into an index-sized integer"
  | noTransformation => ""
  | access failure => failure.message
  | malformed sequence => sequence.message
  | configNotFound => "No logical_file.toml found in any parent directory"
  | reservedOption name => s!"Macro.invocation() got multiple values for argument '{name}'"
  | numberTooLong digits =>
    "Exceeds the limit (4300 digits) for integer string conversion: " ++
      s!"value has {digits} digits; use sys.set_int_max_str_digits() to increase the limit"
  | unfinished => "unfinished scan"

/-- What an operation fails with. -/
inductive Error where
  | reported (cause : Cause) (span : Option Span)
  | fault (fault : Fault)
deriving DecidableEq

namespace Error

def kind? : Error → Option ErrorKind
  | reported cause _ => some cause.kind
  | fault _ => none

def message : Error → String
  | reported cause _ => cause.message
  | fault f => f.message

/-- The error with the span to blame, unless it already has one. -/
def blaming (span : Span) : Error → Error
  | reported cause none => reported cause (some span)
  | e => e

end Error

/-- An error without a span. -/
instance : Coe Cause Error := ⟨fun cause => .reported cause none⟩

/-- Fails for the given cause. -/
def failFor {α : Type} (cause : Cause) : Except Error α := .error (.reported cause none)

/-- Turns an access failure into a fault. -/
def faultOfAccess {α : Type} : Except AccessFailure α → Except Error α
  | .ok a => .ok a
  | .error failure => .error (.fault (.access failure))

end Patchwork
