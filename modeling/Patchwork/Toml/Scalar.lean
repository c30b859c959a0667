import Patchwork.OptionValue
import Patchwork.Pattern.Token

/-!
# Strings, numbers and dates of TOML

The leaves of a TOML 1.0 document. Each reader takes the characters that are left of the document
and answers what it has read with what is left after it, or why the document is no TOML. Line ends
have been brought to single line feeds before.
-/

namespace Patchwork.Toml

/-- Why a document cannot be used. -/
inductive Failure where
  | invalid
  /-- It holds a decimal integer with too many digits. -/
  | numberTooLong (digits : Nat)
deriving DecidableEq

def invalid {α : Type} : Except Failure α := .error .invalid

/-! ## Blanks and comments -/

/-- Blanks within a line. -/
def isSpace (c : Char) : Bool := c == ' ' || c == '\t'

def skipSpaces (cs : List Char) : List Char := cs.dropWhile isSpace

/-- Control characters other than the tab may not be written. -/
def isControl (c : Char) : Bool := (c.toNat < 32 && c != '\t') || c.toNat == 127

/-- Drops a comment up to the end of the line, if one begins here. -/
def skipComment (cs : List Char) : Except Failure (List Char) :=
  match cs with
  | '#' :: rest =>
    if (rest.takeWhile (· != '\n')).any isControl then invalid
    else .ok (rest.dropWhile (· != '\n'))
  | _ => .ok cs

/-- Drops blanks, line feeds and at most `fuel` comments. -/
def skipLines : (fuel : Nat) → List Char → Except Failure (List Char)
  | 0, cs => .ok cs
  | fuel + 1, cs => do
    let rest := cs.dropWhile fun c => isSpace c || c == '\n'
    match rest with
    | '#' :: _ => skipLines fuel (← skipComment rest)
    | _ => return rest

/-! ## Strings -/

/-- The character that a letter or mark stands for after a backslash. -/
def escapeOf? : Char → Option Char
  | 'b' => some '\x08'
  | 't' => some '\t'
  | 'n' => some '\n'
  | 'f' => some '\x0c'
  | 'r' => some '\r'
  | '"' => some '"'
  | '\\' => some '\\'
  | _ => none

/-- What an escape stands for; `cs` follows the backslash. In a multi-line string a backslash at the
end of a line stands for nothing, together with all blanks and line feeds after it. -/
def escape (multiline : Bool) (cs : List Char) : Except Failure (List Char × List Char) :=
  match cs with
  | [] => invalid
  | 'u' :: rest => hex 4 rest
  | 'U' :: rest => hex 8 rest
  | c :: rest =>
    if multiline && (isSpace c || c == '\n') then
      match (c :: rest).dropWhile isSpace with
      | [] => .ok ([], [])
      | '\n' :: rest' => .ok ([], rest'.dropWhile fun d => isSpace d || d == '\n')
      | _ => invalid
    else
      match escapeOf? c with
      | some d => .ok ([d], rest)
      | none => invalid
where
  /-- The character with the code point that so many hexadecimal digits write. -/
  hex (width : Nat) (cs : List Char) : Except Failure (List Char × List Char) :=
    match Pattern.hexChar width cs with
    | some (c, rest) => .ok ([c], rest)
    | none => invalid

/-- The rest of a basic string after its opening quote, or quotes. -/
def basicRest (multiline : Bool) : (fuel : Nat) → List Char →
    Except Failure (List Char × List Char)
  | 0, _ => invalid
  | _, [] => invalid
  | fuel + 1, '"' :: rest =>
    if !multiline then .ok ([], rest)
    else
      match rest with
      | '"' :: '"' :: rest' => .ok ([], rest')
      | _ => do
        let (text, rest') ← basicRest multiline fuel rest
        return ('"' :: text, rest')
  | fuel + 1, '\\' :: rest => do
    let (taken, rest') ← escape multiline rest
    let (text, rest'') ← basicRest multiline fuel rest'
    return (taken ++ text, rest'')
  | fuel + 1, c :: rest =>
    if isControl c && !(multiline && c == '\n') then invalid
    else do
      let (text, rest') ← basicRest multiline fuel rest
      return (c :: text, rest')

/-- The rest of a literal string of one line after its opening quote. -/
def literalRest : List Char → Except Failure (List Char × List Char)
  | [] => invalid
  | c :: rest =>
    if c = '\'' then .ok ([], rest)
    else if isControl c then invalid
    else do
      let (text, rest') ← literalRest rest
      return (c :: text, rest')

/-- The rest of a literal string of several lines after its opening quotes. -/
def multilineLiteralRest : List Char → Except Failure (List Char × List Char)
  | [] => invalid
  | '\'' :: '\'' :: '\'' :: rest => .ok ([], rest)
  | c :: rest =>
    if isControl c && c != '\n' then invalid
    else do
      let (text, rest') ← multilineLiteralRest rest
      return (c :: text, rest')

/-- A multi-line string with the one or two quotes that may stand right before the closing ones. -/
def withLastQuotes (quote : Char) (text : List Char) (cs : List Char) : String × List Char :=
  let more := (cs.take 2).takeWhile (· == quote)
  (String.ofList (text ++ more), cs.drop more.length)

/-- The text after the opening quotes of a multi-line string: a line feed right there does not
belong to it. -/
def skipFirstLineFeed : List Char → List Char
  | '\n' :: rest => rest
  | cs => cs

def oneLine (quote : Char) (cs : List Char) : Except Failure (String × List Char) := do
  let (text, rest) ← if quote = '"' then basicRest false (cs.length + 1) cs else literalRest cs
  return (String.ofList text, rest)

def manyLines (quote : Char) (cs : List Char) : Except Failure (String × List Char) := do
  let body := skipFirstLineFeed cs
  let (text, rest) ←
    if quote = '"' then basicRest true (body.length + 1) body else multilineLiteralRest body
  return withLastQuotes quote text rest

/-! ## Keys -/

def isBareKey (c : Char) : Bool := c.isAlphanum || c == '-' || c == '_'

def keyPart (cs : List Char) : Except Failure (String × List Char) :=
  match cs with
  | [] => invalid
  | c :: rest =>
    if c = '"' ∨ c = '\'' then oneLine c rest
    else
      let name := cs.takeWhile isBareKey
      if name.isEmpty then invalid else .ok (String.ofList name, cs.dropWhile isBareKey)

/-- A key of at most `fuel` parts with dots between them, and the blanks after it. -/
def key : (fuel : Nat) → List Char → Except Failure (List String × List Char)
  | 0, _ => invalid
  | fuel + 1, cs => do
    let (part, rest) ← keyPart cs
    match skipSpaces rest with
    | '.' :: rest' =>
      let (parts, rest'') ← key fuel (skipSpaces rest')
      return (part :: parts, rest'')
    | rest' => return ([part], rest')

/-! ## Dates and times -/

/-- The number that exactly `width` digits write. -/
def fixedDigits (width : Nat) (cs : List Char) : Option (Nat × List Char) :=
  let digits := cs.take width
  if digits.length = width ∧ digits.all Char.isDigit then
    some (Pattern.decimal digits, cs.drop width)
  else none

def expect (c : Char) : List Char → Option (List Char)
  | d :: rest => if d = c then some rest else none
  | [] => none

def hourMinute (cs : List Char) : Option (List Char) := do
  let (hour, rest) ← fixedDigits 2 cs
  let rest ← expect ':' rest
  let (minute, rest) ← fixedDigits 2 rest
  guard (hour < 24 ∧ minute < 60)
  return rest

/-- A time of day, perhaps with a fraction of a second. -/
def timeOfDay (cs : List Char) : Option (List Char) := do
  let rest ← hourMinute cs
  let rest ← expect ':' rest
  let (second, rest) ← fixedDigits 2 rest
  guard (second < 60)
  match rest with
  | '.' :: d :: more => return if d.isDigit then more.dropWhile Char.isDigit else rest
  | _ => return rest

/-- What may follow a time of day to say where it is meant. -/
def zone (cs : List Char) : List Char :=
  match cs with
  | 'Z' :: rest | 'z' :: rest => rest
  | '+' :: rest | '-' :: rest => (hourMinute rest).getD cs
  | _ => cs

def yearMonthDay (cs : List Char) : Option ((Nat × Nat × Nat) × List Char) := do
  let (year, rest) ← fixedDigits 4 cs
  let rest ← expect '-' rest
  let (month, rest) ← fixedDigits 2 rest
  let rest ← expect '-' rest
  let (day, rest) ← fixedDigits 2 rest
  guard (1 ≤ month ∧ month ≤ 12 ∧ 1 ≤ day ∧ day ≤ 31)
  return ((year, month, day), rest)

def daysIn (year month : Nat) : Nat :=
  if month = 2 then
    if year % 4 = 0 ∧ (year % 100 ≠ 0 ∨ year % 400 = 0) then 29 else 28
  else if month = 4 ∨ month = 6 ∨ month = 9 ∨ month = 11 then 30
  else 31

/-- A date, perhaps with a time of day after a `T` or a space; nothing if none begins here. A date
has to exist. -/
def dateTime? (cs : List Char) : Option (Except Failure (OptionValue × List Char)) := do
  let ((year, month, day), rest) ← yearMonthDay cs
  if year = 0 ∨ daysIn year month < day then return invalid
  let withTime := match rest with
    | c :: rest' => if c = 'T' ∨ c = 't' ∨ c = ' ' then timeOfDay rest' else none
    | [] => none
  match withTime with
  | some rest' => return .ok (.dateTime, zone rest')
  | none => return .ok (.date, rest)

/-! ## Numbers -/

/-- The digits of a number with single underscores between them. -/
def digitsOf (isDigit : Char → Bool) : List Char → List Char × List Char
  | '_' :: d :: rest =>
    if isDigit d then
      let (digits, rest') := digitsOf isDigit rest
      (d :: digits, rest')
    else ([], '_' :: d :: rest)
  | d :: rest =>
    if isDigit d then
      let (digits, rest') := digitsOf isDigit rest
      (d :: digits, rest')
    else ([], d :: rest)
  | [] => ([], [])

/-- Digits of which the first comes right here. -/
def digitsFrom (isDigit : Char → Bool) (cs : List Char) : Option (List Char × List Char) :=
  match cs with
  | d :: _ => if isDigit d then some (digitsOf isDigit cs) else none
  | [] => none

def digitLimit : Nat := 4300

def valueIn (base : Nat) (digits : List Char) : Nat :=
  digits.foldl (fun n d => base * n + (Pattern.hexValue? d).getD 0) 0

/-- An integer with a sign in front of its base, in base sixteen, two or eight. -/
def basedInteger? (cs : List Char) : Option (OptionValue × List Char) :=
  match cs with
  | '0' :: 'x' :: rest => inBase 16 (fun d => (Pattern.hexValue? d).isSome) rest
  | '0' :: 'b' :: rest => inBase 2 (fun d => d == '0' || d == '1') rest
  | '0' :: 'o' :: rest => inBase 8 (fun d => '0' ≤ d && d ≤ '7') rest
  | _ => none
where
  inBase (base : Nat) (isDigit : Char → Bool) (cs : List Char) : Option (OptionValue × List Char) :=
    (digitsFrom isDigit cs).map fun (digits, rest) => (.integer (valueIn base digits), rest)

/-- What is left after the part of a number behind the point, if there is one. -/
def skipFraction (cs : List Char) : List Char :=
  match cs with
  | '.' :: rest => ((digitsFrom Char.isDigit rest).map (·.2)).getD cs
  | _ => cs

/-- What is left after the exponent of a number, if there is one. -/
def skipExponent (cs : List Char) : List Char :=
  match cs with
  | c :: rest =>
    if c = 'e' ∨ c = 'E' then
      let unsigned := match rest with
        | '+' :: r | '-' :: r => r
        | r => r
      ((digitsFrom Char.isDigit unsigned).map (·.2)).getD cs
    else cs
  | [] => cs

/-- The whole part of a decimal number: a zero alone, or digits of which the first is not zero. -/
def wholePart (cs : List Char) : Option (List Char × List Char) :=
  match cs with
  | '0' :: rest => some (['0'], rest)
  | _ => digitsFrom Char.isDigit cs

def decimalNumber? (negative : Bool) (cs : List Char) :
    Option (Except Failure (OptionValue × List Char)) := do
  let (digits, rest) ← wholePart cs
  let rest' := skipExponent (skipFraction rest)
  if rest'.length < rest.length then return .ok (.fraction, rest')
  else if digitLimit < digits.length then return .error (.numberTooLong digits.length)
  else
    let n : Int := Pattern.decimal digits
    return .ok (.integer (if negative then -n else n), rest)

/-- Infinity and the number that is none, after a sign. -/
def specialNumber? (cs : List Char) : Option (Except Failure (OptionValue × List Char)) :=
  match cs with
  | 'i' :: 'n' :: 'f' :: rest => some (.ok (.fraction, rest))
  | 'n' :: 'a' :: 'n' :: rest => some (.ok (.fraction, rest))
  | _ => none

/-- A number; nothing if none begins here. -/
def number? (cs : List Char) : Option (Except Failure (OptionValue × List Char)) :=
  match basedInteger? cs with
  | some reading => some (.ok reading)
  | none =>
    match cs with
    | '-' :: rest => signed true rest
    | '+' :: rest => signed false rest
    | _ => signed false cs
where
  signed (negative : Bool) (rest : List Char) :
      Option (Except Failure (OptionValue × List Char)) :=
    (decimalNumber? negative rest).orElse fun _ => specialNumber? rest

/-- A truth value, date, time or number. -/
def plainScalar (cs : List Char) : Except Failure (OptionValue × List Char) :=
  match cs with
  | 't' :: 'r' :: 'u' :: 'e' :: rest => .ok (.boolean true, rest)
  | 'f' :: 'a' :: 'l' :: 's' :: 'e' :: rest => .ok (.boolean false, rest)
  | _ =>
    match dateTime? cs with
    | some reading => reading
    | none =>
      match timeOfDay cs with
      | some rest => .ok (.time, rest)
      | none => (number? cs).getD invalid

end Patchwork.Toml
