import Patchwork.Pattern.Basic

/-!
# The words of pattern sources

A pattern source is first cut into tokens: characters and sets, boundaries, repetition marks, and
the marks that open, divide and close groups. Some characters are words of their own only in the
right place: a brace that does not enclose a count stands for itself, and so does a closing bracket
that comes first in a set.
-/

namespace Patchwork.Pattern

/-- The modes a pattern can be read in: letters in either case, boundaries at every line feed, and a
dot that accepts a line feed. -/
structure Flags where
  ignoreCase : Bool
  multiline : Bool
  dotAll : Bool
deriving DecidableEq

inductive Opening where
  | capture (name : Option String)
  | plain (on off : Flags)
  | atomic
deriving DecidableEq

inductive Token where
  | char (c : Char)
  | any
  | set (s : CharSet)
  | boundary (b : Boundary)
  | caret
  | dollar
  | referenceTo (name : String)
  | referenceAt (number : Nat)
  | repetition (greed : Greed) (least : Nat) (most : Option Nat)
  | openGroup (opening : Opening)
  | closeGroup
  | bar
  | setFlags (on : Flags)
deriving DecidableEq

/-! ## Numbers and names -/

/-- The number that decimal digits of ASCII write. -/
def decimal (digits : List Char) : Nat :=
  digits.foldl (fun n c => 10 * n + (c.toNat - '0'.toNat)) 0

def hexValue? (c : Char) : Option Nat :=
  if c.isDigit then some (c.toNat - '0'.toNat)
  else if 'a' ≤ c ∧ c ≤ 'f' then some (c.toNat - 'a'.toNat + 10)
  else if 'A' ≤ c ∧ c ≤ 'F' then some (c.toNat - 'A'.toNat + 10)
  else none

/-- The character whose code point exactly `width` hexadecimal digits write. -/
def hexChar (width : Nat) (cs : List Char) : Option (Char × List Char) := do
  let digits := cs.take width
  guard (digits.length = width)
  let values ← digits.mapM hexValue?
  let n := values.foldl (fun n v => 16 * n + v) 0
  guard n.isValidChar
  return (Char.ofNat n, cs.drop width)

/-- Names begin with a letter or underscore and go on with word characters. -/
def isName (name : List Char) : Bool :=
  match name with
  | [] => false
  | c :: rest => Text.isWord c && !Text.isDigit c && rest.all Text.isWord

def nameUpTo (close : Char) (cs : List Char) : Option (String × List Char) :=
  match cs.span (· != close) with
  | (name, _ :: rest) => if isName name then some (String.ofList name, rest) else none
  | (_, []) => none

/-! ## Escapes -/

/-- The category a letter stands for after a backslash; a capital stands for its complement. -/
def categoryEscape? : Char → Option SetItem
  | 'd' => some (.category .digit false)
  | 'D' => some (.category .digit true)
  | 's' => some (.category .blank false)
  | 'S' => some (.category .blank true)
  | 'w' => some (.category .word false)
  | 'W' => some (.category .word true)
  | _ => none

/-- The control character a letter stands for after a backslash. -/
def controlEscape? : Char → Option Char
  | 'a' => some '\x07'
  | 'f' => some '\x0c'
  | 'n' => some '\n'
  | 'r' => some '\r'
  | 't' => some '\t'
  | 'v' => some '\x0b'
  | _ => none

def isOctal (c : Char) : Bool := '0' ≤ c && c ≤ '7'

/-- The character whose code point the digits of base eight write; only the first 256 can be written
so. -/
def octalChar? (digits : List Char) : Option Char :=
  let n := digits.foldl (fun n d => 8 * n + (d.toNat - '0'.toNat)) 0
  if n < 256 then some (Char.ofNat n) else none

/-- The character that `c` and what follows it stand for after a backslash, wherever they are
written: letters and digits need a meaning, all other characters stand for themselves. -/
def charEscape (c : Char) (cs : List Char) : Option (Char × List Char) :=
  match controlEscape? c with
  | some d => some (d, cs)
  | none =>
    if c = 'x' then hexChar 2 cs
    else if c = 'u' then hexChar 4 cs
    else if c = 'U' then hexChar 8 cs
    else if c = '0' then
      let digits := (cs.take 2).takeWhile isOctal
      (octalChar? digits).map fun d => (d, cs.drop digits.length)
    else if c.isAlphanum then none
    else some (c, cs)

/-- A digit other than zero after a backslash: the number of a group, of one or two digits, unless
three digits of base eight stand there, which write a character. -/
def numberEscape (c : Char) (cs : List Char) : Option (Token × List Char) :=
  let octal := c :: cs.take 2
  if octal.length = 3 ∧ octal.all isOctal then
    (octalChar? octal).map fun d => (.char d, cs.drop 2)
  else
    let digits := (cs.take 1).takeWhile Char.isDigit
    some (.referenceAt (decimal (c :: digits)), cs.drop digits.length)

/-- The token that `c` and what follows it stand for after a backslash, outside sets. -/
def escape (c : Char) (cs : List Char) : Option (Token × List Char) :=
  match categoryEscape? c with
  | some item => some (.set ⟨false, [item]⟩, cs)
  | none =>
    match c with
    | 'b' => some (.boundary .word, cs)
    | 'B' => some (.boundary .notWord, cs)
    | 'A' => some (.boundary .textStart, cs)
    | 'Z' => some (.boundary .textEnd, cs)
    | _ =>
      if '1' ≤ c ∧ c ≤ '9' then numberEscape c cs
      else (charEscape c cs).map fun (d, rest) => (.char d, rest)

/-! ## Sets -/

/-- The character that `c` and what follows it stand for after a backslash in a set, where a digit
begins a code point of up to three digits of base eight. -/
def setEscape (c : Char) (cs : List Char) : Option (Char × List Char) :=
  if isOctal c then
    let digits := (cs.take 2).takeWhile isOctal
    (octalChar? (c :: digits)).map fun d => (d, cs.drop digits.length)
  else charEscape c cs

def setAtom : List Char → Option (SetItem × List Char)
  | [] => none
  | '\\' :: 'b' :: rest => some (.char '\x08', rest)
  | '\\' :: c :: rest =>
    match categoryEscape? c with
    | some item => some (item, rest)
    | none => (setEscape c rest).map fun (d, r) => (.char d, r)
  | ['\\'] => none
  | c :: rest => some (.char c, rest)

/-- The items of a set up to its closing bracket, which stands for itself at the very beginning. -/
def setItems : (fuel : Nat) → (atStart : Bool) → List Char → Option (List SetItem × List Char)
  | 0, _, _ => none
  | _, _, [] => none
  | fuel + 1, atStart, c :: cs =>
    if c = ']' ∧ ¬ atStart then some ([], cs)
    else do
      let (item, rest) ← setAtom (c :: cs)
      match rest with
      | '-' :: ']' :: rest' => return ([item, .char '-'], rest')
      | '-' :: rest' =>
        let (upper, rest'') ← setAtom rest'
        match item, upper with
        | .char least, .char greatest =>
          guard (least ≤ greatest)
          let (items, end') ← setItems fuel false rest''
          return (.range least greatest :: items, end')
        | _, _ => none
      | _ =>
        let (items, end') ← setItems fuel false rest
        return (item :: items, end')

def charSet (cs : List Char) : Option (CharSet × List Char) :=
  match cs with
  | '^' :: rest => (setItems cs.length true rest).map fun (items, r) => (⟨true, items⟩, r)
  | _ => (setItems (cs.length + 1) true cs).map fun (items, r) => (⟨false, items⟩, r)

/-! ## Repetitions -/

/-- A repetition with the mark for its greed, if one follows. -/
def withGreed (least : Nat) (most : Option Nat) : List Char → Token × List Char
  | '?' :: rest => (.repetition .lazy least most, rest)
  | '+' :: rest => (.repetition .possessive least most, rest)
  | rest => (.repetition .greedy least most, rest)

/-- The count after an opening brace, up to the closing one; a brace that encloses no count is a
character. -/
def braces (cs : List Char) : Option (Token × List Char) :=
  let low := cs.takeWhile Char.isDigit
  let rest := cs.dropWhile Char.isDigit
  let least := decimal low
  match rest with
  | '}' :: rest' =>
    if low.isEmpty then some (.char '\x7b', cs) else some (withGreed least (some least) rest')
  | ',' :: rest' =>
    let high := rest'.takeWhile Char.isDigit
    match rest'.dropWhile Char.isDigit with
    | '}' :: rest'' =>
      if high.isEmpty then some (withGreed least none rest'')
      else if decimal high < least then none
      else some (withGreed least (some (decimal high)) rest'')
    | _ => some (.char '\x7b', cs)
  | _ => some (.char '\x7b', cs)

/-! ## Groups -/

def Flags.none : Flags := ⟨false, false, false⟩

/-- The modes with the one that the letter names; `u` names the one that is always on. -/
def Flags.add (f : Flags) : Char → Option Flags
  | 'i' => some { f with ignoreCase := true }
  | 'm' => some { f with multiline := true }
  | 's' => some { f with dotAll := true }
  | 'u' => some f
  | _ => Option.none

def Flags.ofLetters (letters : List Char) : Option Flags := letters.foldlM Flags.add .none

/-- The modes named between a question mark and a colon or closing parenthesis. -/
def flagGroup (cs : List Char) : Option (Token × List Char) := do
  let letters := cs.takeWhile Char.isAlpha
  let on ← Flags.ofLetters letters
  match cs.dropWhile Char.isAlpha with
  | ')' :: rest =>
    guard (!letters.isEmpty)
    return (.setFlags on, rest)
  | ':' :: rest => return (.openGroup (.plain on .none), rest)
  | '-' :: rest =>
    let offLetters := rest.takeWhile Char.isAlpha
    guard (!offLetters.isEmpty && !offLetters.contains 'u')
    let off ← Flags.ofLetters offLetters
    match rest.dropWhile Char.isAlpha with
    | ':' :: rest' => return (.openGroup (.plain on off), rest')
    | _ => none
  | _ => none

def parenthesis : List Char → Option (Token × List Char)
  | '?' :: 'P' :: '<' :: rest =>
    (nameUpTo '>' rest).map fun (name, r) => (.openGroup (.capture (some name)), r)
  | '?' :: 'P' :: '=' :: rest => (nameUpTo ')' rest).map fun (name, r) => (.referenceTo name, r)
  | '?' :: '>' :: rest => some (.openGroup .atomic, rest)
  | '?' :: rest => flagGroup rest
  | rest => some (.openGroup (.capture none), rest)

/-! ## Tokens -/

def firstToken (c : Char) (cs : List Char) : Option (Token × List Char) :=
  match c with
  | '\\' =>
    match cs with
    | [] => none
    | d :: rest => escape d rest
  | '[' => (charSet cs).map fun (s, rest) => (.set s, rest)
  | '(' => parenthesis cs
  | ')' => some (.closeGroup, cs)
  | '|' => some (.bar, cs)
  | '.' => some (.any, cs)
  | '^' => some (.caret, cs)
  | '$' => some (.dollar, cs)
  | '*' => some (withGreed 0 none cs)
  | '+' => some (withGreed 1 none cs)
  | '?' => some (withGreed 0 (some 1) cs)
  | '\x7b' => braces cs
  | _ => some (.char c, cs)

/-- The tokens of at most `fuel` characters. -/
def tokensUpTo : (fuel : Nat) → List Char → Option (List Token)
  | _, [] => some []
  | 0, _ :: _ => none
  | fuel + 1, c :: cs => do
    let (t, rest) ← firstToken c cs
    let ts ← tokensUpTo fuel rest
    return t :: ts

/-- The tokens of a source: every token takes a character, so there are at most as many. -/
def tokens (source : String) : Option (List Token) :=
  tokensUpTo source.toList.length source.toList

end Patchwork.Pattern
