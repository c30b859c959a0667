import Patchwork.Include
import Patchwork.OptionValue
import Patchwork.Pattern.Parse

/-!
# Passes over documents

A `Pass` is a transformation of whole documents with all that it needs: including the sources that
directives name, or blanking the lines a pattern matches, where any `Matcher` is a pattern. A `Macro`
is a kind of pass under a name; it makes a pass from options, which is where they are checked.
`Document.invokeAll` applies one invocation after the other.
-/

namespace Patchwork

/-! ## Recognising lines -/

/-- A pattern that captures a group named `file`. -/
structure DirectivePattern where
  pattern : Matcher
  group : Nat
  named : pattern.group? "file" = some group

/-- The directive on a line. If the group took no part in the match, nothing is captured before the
first column. -/
def DirectivePattern.find (p : DirectivePattern) (line : String) : Option Directive :=
  (p.pattern.search line).map fun m =>
    match m.captures.lookup p.group with
    | none => ⟨"", 0, -1⟩
    | some (start, stop) =>
      ⟨String.ofList ((line.toList.drop start).take (stop - start)), start + 1, stop⟩

/-- The columns of a directive are columns of its line. -/
theorem DirectivePattern.columns_of_find {p : DirectivePattern} {line : String} {dir : Directive}
    (h : p.find line = some dir) : 0 ≤ dir.startCol ∧ dir.startCol ≤ dir.endCol + 1 ∧
      dir.endCol - dir.startCol + 1 ≤ line.length ∧ dir.endCol ≤ line.length := by
  obtain ⟨m, hm, rfl⟩ := Option.map_eq_some_iff.1 h
  have hwithin := p.pattern.search_within hm
  cases hl : m.captures.lookup p.group with
  | none => simp
  | some e =>
    obtain ⟨before, after, hsplit, -⟩ := List.lookup_eq_some_iff.1 hl
    obtain ⟨hle, hlast⟩ := hwithin.captures (p.group, e) (by simp [hsplit])
    simp only at hle hlast ⊢
    omega

/-! ## Blanking lines -/

/-- The section with every line that satisfies `p` blanked, one after the other; the lines are
collected before the first of them is changed. -/
def Section.blanking (p : String → Bool) (s : Section) : Except Error Section :=
  (s.allMatching p).foldlM (fun s l => s.update l.1 Text.blank) s

/-- The document with every line that satisfies `p` blanked, one section after the other. -/
def Document.blanking (p : String → Bool) (d : Document) : Except Error Document := do
  d.withSections (← d.sections.mapM (Section.blanking p))

/-! ## Passes -/

inductive Pass where
  | inclusion (p : DirectivePattern)
  | lineComment (p : Matcher)
  /-- Stands for a transformation that nobody has defined. -/
  | bare (p : Matcher)

namespace Pass

def pattern : Pass → Matcher
  | inclusion p => p.pattern
  | lineComment p => p
  | bare p => p

def apply (sources : Sources) (d : Document) : Pass → Except Error Document
  | inclusion p => d.including sources p.find
  | lineComment p => d.blanking p.matchesIn
  | bare _ => .error (.fault .noTransformation)

end Pass

/-! ## Macros and their options -/

inductive Macro where
  | inclusion
  | lineComment
  | bare
deriving DecidableEq

namespace Macro

def name : Macro → String
  | inclusion => "include"
  | lineComment => "line_comment"
  | bare => "bare"

/-- The macros there are when nothing else is said. -/
def builtin : List Macro := [inclusion, lineComment]

/-- The pattern among the options, which the messages say is for the macro `name`. -/
def patternOption (name : String) (options : OptionTable) : Except Error Matcher :=
  match options.lookup "pattern" with
  | none => failFor (.optionMissing name "pattern")
  | some (.pattern p) => .ok p
  | some (.text source) =>
    match Pattern.compile? source with
    | some p => .ok p.matcher
    | none => failFor (.patternInvalid name source)
  | some value => failFor (.patternExpected name "pattern" value.typeName)

def directivePattern (p : Matcher) : Except Error DirectivePattern :=
  match h : p.group? "file" with
  | some group => .ok ⟨p, group, h⟩
  | none => failFor (.captureMissing inclusion.name p.source)

/-- The pass that a macro makes from options. A bare macro takes the options of a line
comment. -/
def configure (options : OptionTable) : Macro → Except Error Pass
  | inclusion => do
    let p ← patternOption inclusion.name options
    return .inclusion (← directivePattern p)
  | lineComment => return .lineComment (← patternOption lineComment.name options)
  | bare => return .bare (← patternOption lineComment.name options)

/-- The pass that a macro makes from what was given as its options. -/
def configureValue (m : Macro) : OptionValue → Except Error Pass
  | .table options => m.configure options
  | value => failFor (.optionsNotTable m.name value.typeName)

/-- The option name that no macro can be given by name. -/
def reservedName : String := "cls"

/-- The pass that a macro makes from options given by name. -/
def invoke (m : Macro) (options : OptionTable) : Except Error Pass :=
  if (options.lookup reservedName).isSome then .error (.fault (.reservedOption reservedName))
  else m.configure options

end Macro

/-- A macro by name, with options that are still to be checked or a pass that has been made of
them. -/
inductive Invocation where
  | unchecked (name : String) (options : OptionValue)
  | checked (name : String) (pass : Pass)

namespace Invocation

def name : Invocation → String
  | unchecked name _ => name
  | checked name _ => name

end Invocation

/-- The failure to find a macro by name among those of a table. -/
def Macro.unknown (table : List Macro) (name : String) : Cause :=
  .unknownMacro name ((table.map Macro.name).eraseDups.mergeSort (· ≤ ·))

namespace Document

def invoke (sources : Sources) (table : List Macro) (d : Document) (i : Invocation) :
    Except Error Document :=
  match table.find? fun m => m.name = i.name with
  | none => failFor (Macro.unknown table i.name)
  | some m =>
    match i with
    | .unchecked _ options => do (← m.configureValue options).apply sources d
    | .checked _ r => r.apply sources d

/-- The document after the invocations, one after the other. -/
def invokeAll (sources : Sources) (table : List Macro) (d : Document)
    (invocations : List Invocation) : Except Error Document :=
  invocations.foldlM (invoke sources table) d

/-- A source read as a document, with built-in macros invoked on it. -/
def readAndInvoke (sources : Sources) (base : Option String) (source : String)
    (invocations : List Invocation) : Except Error Document := do
  let d ← read sources.load base source
  d.invokeAll sources Macro.builtin invocations

end Document

end Patchwork
