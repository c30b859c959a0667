import Patchwork.Pass
import Patchwork.Source.Files
import Patchwork.Toml.Parse

/-!
# Configuration

A `Config` says where the sources of a document are found, which macros are applied to it, and with
which options. It is read from a file `logical_file.toml`, searched for from a place upwards
(`Config.find`); what the file leaves out has defaults, option by option. Where there is no file,
the defaults hold and sources are found beside the main one.
-/

namespace Patchwork

/-- Where sources are found, the macros in the order they are applied, and the options of macros by
name. -/
structure Config where
  basePath : String
  macros : List String
  options : List (String × OptionTable)

namespace Config

def fileName : String := "logical_file.toml"

/-- A line that begins with a percent sign and a source in parentheses is a directive. -/
def defaultInclude : String := "^\\s*%\\((?P<file>.*)\\)"

/-- A line that begins with two percent signs is a comment. -/
def defaultComment : String := "^\\s*%%"

/-- The macros that are applied when nothing else is said. -/
def defaultMacros : List String := [Macro.inclusion.name, Macro.lineComment.name]

/-- The options that hold when nothing else is said. -/
def defaultOptions : List (String × OptionTable) :=
  [(Macro.inclusion.name, [("pattern", .text defaultInclude)]),
   (Macro.lineComment.name, [("pattern", .text defaultComment)])]

/-- All defaults, with sources found from the given directory. -/
def ofBase (basePath : String) : Config := ⟨basePath, defaultMacros, defaultOptions⟩

/-- The options of a macro; a macro without any has the empty table. -/
def optionsOf (c : Config) (name : String) : OptionTable := (c.options.lookup name).getD []

/-- Replaces the options of a macro, or adds them. -/
def setOptions (name : String) (table : OptionTable) :
    List (String × OptionTable) → List (String × OptionTable)
  | [] => [(name, table)]
  | (n, t) :: rest => if n = name then (n, table) :: rest else (n, t) :: setOptions name table rest

/-! ## What macros to invoke -/

/-- The invocation of a macro by name, with its options checked. -/
def invocation (c : Config) (name : String) : Except Error Invocation :=
  match Macro.builtin.find? fun m => m.name = name with
  | none => failFor (Macro.unknown Macro.builtin name)
  | some m => return .checked name (← m.invoke (c.optionsOf name))

/-- The invocations of all macros of the configuration, in order. -/
def invocations (c : Config) : Except Error (List Invocation) := c.macros.mapM c.invocation

/-! ## Reading a configuration -/

def names? : OptionValue → Option (List String)
  | .list vs => vs.mapM fun v =>
    match v with
    | .text s => some s
    | _ => none
  | _ => none

/-- The settings of the table `document`, with sources found from `directory` where it does not say
otherwise. -/
def readDocument (fs : FileSystem) (directory : Path) (c : Config) (document : OptionValue) :
    Except Error Config :=
  match document with
  | .table entries =>
    match (entries.lookup "base_path").getD (.text ".") with
    | .text base =>
      match (entries.lookup "macros").elim (some c.macros) names? with
      | some macros => do
        let path ← faultOfAccess (fs.resolve (directory ++ Path.ofString base).render)
        return { c with basePath := path.render, macros }
      | none => failFor .macrosNotNames
    | _ => failFor .basePathNotText
  | _ => failFor .documentNotTable

def readMacro (c : Config) (entry : String × OptionValue) : Except Error Config :=
  match entry.2 with
  | .table given =>
    let table := OptionTable.override (c.optionsOf entry.1) given
    .ok { c with options := setOptions entry.1 table c.options }
  | _ => failFor (.macroNotTable entry.1)

def readMacros (c : Config) (macros : OptionValue) : Except Error Config :=
  match macros with
  | .table entries => entries.foldlM readMacro c
  | _ => failFor .macrosNotTable

/-- The configuration that a table stands for, when it was found in `directory`. -/
def ofTable (fs : FileSystem) (directory : Path) (table : OptionTable) : Except Error Config := do
  let c ←
    match table.lookup "document" with
    | some document => readDocument fs directory (.ofBase directory.render) document
    | none => pure (.ofBase directory.render)
  match table.lookup "macros" with
  | some macros => c.readMacros macros
  | none => return c

/-- The table in a configuration file. That the file can be opened and is UTF-8 is taken for
granted: otherwise that is a fault. -/
def readTable (fs : FileSystem) (path : String) : Except Error OptionTable := do
  let content ← faultOfAccess (fs.read path)
  match Text.decode content with
  | .error sequence => .error (.fault (.malformed sequence))
  | .ok text =>
    match Toml.parse text with
    | .ok table => return table
    | .error .invalid => failFor (.configInvalid (Path.ofString path).lastName)
    | .error (.numberTooLong digits) => .error (.fault (.numberTooLong digits))

def load (fs : FileSystem) (path : String) : Except Error Config := do
  let table ← readTable fs path
  let file ← faultOfAccess (fs.resolve path)
  ofTable fs file.parent table

/-- The configuration of a source without a configuration file. -/
def ofSource (fs : FileSystem) (source : String) : Except Error Config := do
  let path ← faultOfAccess (fs.resolve source)
  return .ofBase path.parent.render

/-! ## Finding a configuration -/

/-- The configuration file in the nearest of the directories, given innermost name first. -/
def searchUp (fs : FileSystem) : (reversedNames : List String) → Except Error Path
  | [] => look [] (.error (.fault .configNotFound))
  | name :: above => look (name :: above) (searchUp fs above)
where
  /-- The file in one directory, or else what is found elsewhere. -/
  look (reversedNames : List String) (otherwise : Except Error Path) : Except Error Path := do
    let candidate : Path := ⟨.root, (fileName :: reversedNames).reverse⟩
    match ← faultOfAccess (fs.probe candidate) with
    | some _ => return candidate
    | none => otherwise

/-- The configuration file in the directory at `start` or the nearest one above it; a file stands
for its directory. -/
def find (fs : FileSystem) (start : String) : Except Error Path := do
  let path ← faultOfAccess (fs.resolve start)
  let directory :=
    match ← faultOfAccess (fs.probe path) with
    | some (.file _) => path.parent
    | _ => path
  searchUp fs directory.names.reverse

end Config

end Patchwork
