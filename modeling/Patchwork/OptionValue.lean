import Patchwork.Matcher

/-!
# Option values

What the options of a macro may be given as: the values a configuration file can hold, nothing at
all, and patterns that have been read already, of whatever kind. Numbers with a fraction and dates
are only known by their type, since no option takes one.
-/

namespace Patchwork

/-- A value given for an option, or for the options as a whole. -/
inductive OptionValue where
  | null
  | boolean (value : Bool)
  | integer (value : Int)
  | fraction
  | text (value : String)
  | date
  | dateTime
  | time
  | list (items : List OptionValue)
  | table (entries : List (String × OptionValue))
  | pattern (value : Matcher)

def OptionValue.typeName : OptionValue → String
  | null => "NoneType"
  | boolean _ => "bool"
  | integer _ => "int"
  | fraction => "float"
  | text _ => "str"
  | date => "date"
  | dateTime => "datetime"
  | time => "time"
  | list _ => "list"
  | table _ => "dict"
  | pattern _ => "Pattern"

/-- Options by name, in the order they were given. -/
abbrev OptionTable := List (String × OptionValue)

/-- The table with the value of a name replaced, or put at its end. -/
def OptionTable.put (name : String) (value : OptionValue) : OptionTable → OptionTable
  | [] => [(name, value)]
  | (n, v) :: rest => if n = name then (n, value) :: rest else (n, v) :: put name value rest

/-- The table with the options of another one put over it. -/
def OptionTable.override (base given : OptionTable) : OptionTable :=
  given.foldl (fun table e => put e.1 e.2 table) base

end Patchwork
