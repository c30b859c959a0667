import Patchwork.Text.Blank
import Patchwork.Text.Word

/-!
# Command lines

The arguments of the program, cut into options and operands and read as a `Task`. Options begin
with a hyphen: long ones with two, short ones with one and several letters together; the argument
`--` ends them. Options of the program as a whole come before the name of the command, those of a
command before, between or after its operands.
-/

namespace Patchwork.Command

/-! ## Options and operands -/

/-- What an option does with the argument after it. -/
inductive Taking where
  | flag
  | value
deriving DecidableEq

/-- The options there are: long ones by name, and flags by letter with the long name they stand
for. -/
structure OptionGrammar where
  long : List (String × Taking)
  short : List (Char × String)
  /-- Whether options may still come after an operand. -/
  interspersed : Bool

/-- Options with their values, which are empty for flags, and the operands. -/
structure Split where
  options : List (String × String)
  operands : List String
deriving DecidableEq

namespace Split

def withOption (name value : String) (s : Split) : Split :=
  { s with options := (name, value) :: s.options }

def withOperand (operand : String) (s : Split) : Split :=
  { s with operands := operand :: s.operands }

def has (s : Split) (name : String) : Bool := (s.options.lookup name).isSome

/-- The value given last for an option. -/
def value? (s : Split) (name : String) : Option String := s.options.reverse.lookup name

end Split

/-- Is the argument an option? A hyphen alone is none. -/
def isOption (argument : String) : Bool :=
  match argument.toList with
  | '-' :: _ :: _ => true
  | _ => false

/-- The name before an equals sign, and the value after it if there is one. -/
def nameAndValue (argument : String) : String × Option String :=
  let cs := argument.toList
  match cs.dropWhile (· != '=') with
  | [] => (argument, none)
  | _ :: value => (String.ofList (cs.takeWhile (· != '=')), some (String.ofList value))

/-- The flags that letters after one hyphen stand for. -/
def OptionGrammar.flags? (g : OptionGrammar) (argument : String) : Option (List String) :=
  match argument.toList with
  | '-' :: '-' :: _ => none
  | _ :: letters => letters.mapM fun c => g.short.lookup c
  | [] => none

/-- Cuts arguments into options and operands; nothing if an option does not exist or is not used as
it must be. -/
def OptionGrammar.split (g : OptionGrammar) : List String → Option Split
  | [] => some ⟨[], []⟩
  | argument :: rest =>
    if argument = "--" then some ⟨[], rest⟩
    else if isOption argument then
      let (name, given) := nameAndValue argument
      match g.long.lookup name, given with
      | some .flag, none => (g.split rest).map (·.withOption name "")
      | some .flag, some _ => none
      | some .value, some value => (g.split rest).map (·.withOption name value)
      | some .value, none =>
        match rest with
        | [] => none
        | value :: rest' => (g.split rest').map (·.withOption name value)
      | none, _ => do
        let names ← g.flags? argument
        let s ← g.split rest
        return names.foldr (fun n s => s.withOption n "") s
    else if g.interspersed then (g.split rest).map (·.withOperand argument)
    else some ⟨[], argument :: rest⟩

/-! ## Numbers -/

/-- The value of digits of any script with single underscores between them, after the value so
far. -/
def digitsValue (soFar : Nat) : List Char → Option Nat
  | [] => some soFar
  | '_' :: d :: rest => do
    let v ← Text.digitValue? d
    digitsValue (10 * soFar + v) rest
  | d :: rest => do
    let v ← Text.digitValue? d
    digitsValue (10 * soFar + v) rest

/-- The most digits a number may have. -/
def digitLimit : Nat := 4300

/-- What may stand around a number: white space, but for the four separators of ASCII. -/
def isAroundNumber (c : Char) : Bool := Text.isBlank c && !(28 ≤ c.toNat && c.toNat ≤ 31)

/-- The number that an operand writes, with blanks around it and a sign in front. -/
def number? (operand : String) : Option Int :=
  match (Text.trimBy isAroundNumber operand).toList with
  | '-' :: cs => (unsigned? cs).map fun n => -(n : Int)
  | '+' :: cs => (unsigned? cs).map fun n => (n : Int)
  | cs => (unsigned? cs).map fun n => (n : Int)
where
  /-- The number that digits write, of which the first comes right here. -/
  unsigned? (cs : List Char) : Option Nat :=
    match cs with
    | [] => none
    | '_' :: _ => none
    | _ => if digitLimit < (cs.filter (· != '_')).length then none else digitsValue 0 cs

/-! ## Tasks -/

def programOptions : OptionGrammar where
  long := [("--verbose", .flag), ("--config", .value), ("--no-color", .flag), ("--version", .flag),
    ("--help", .flag)]
  short := [('v', "--verbose")]
  interspersed := false

/-- What is asked of a document. -/
inductive Task where
  /-- Print it, perhaps with a number and a place before every line. -/
  | render (numbered : Bool)
  | resolve
  | sections
deriving DecidableEq

def commandOptions (command : String) : OptionGrammar where
  long := ("--help", .flag) ::
    if command = "render" then [("--line-numbers", .flag)] else []
  short := if command = "render" then [('n', "--line-numbers")] else []
  interspersed := true

def task? (command : String) (options : Split) : Option Task :=
  if command = "render" then some (.render (options.has "--line-numbers"))
  else if command = "resolve" then some .resolve
  else if command = "sections" then some .sections
  else none

end Patchwork.Command
