import Patchwork.Toml.Nesting

/-!
# TOML documents

`Toml.parse` reads a whole document into a table. A document is a sequence of statements, each on a
line of its own: a key with a value, or the header of a table or of another table in a list of
tables.
-/

namespace Patchwork.Toml

/-- Texts have their line ends brought to single line feeds first; a carriage return alone stays. -/
def foldLineEnds : List Char → List Char
  | [] => []
  | '\r' :: '\n' :: rest => '\n' :: foldLineEnds rest
  | c :: rest => c :: foldLineEnds rest

/-- The equals sign between a key and its value, with the blanks after it. -/
def equals : List Char → Except Failure (List Char)
  | '=' :: rest => .ok (skipSpaces rest)
  | _ => invalid

/-- An inline table with one more pair. A pair may extend a table that an earlier pair has begun
with a dotted key, but not a value. -/
def addInline (marks : Marks) (table : OptionTable) (key : Key) (value : OptionValue) :
    Except Failure OptionTable :=
  if marks.has key .closed then invalid
  else
    let (parent, name) := splitLast key
    inside false (addEntry name value) parent table

mutual

/-- A value. Every opening bracket takes two calls, so twice the number of characters is fuel
enough. -/
def value : (fuel : Nat) → List Char → Except Failure (OptionValue × List Char)
  | 0, _ => invalid
  | fuel + 1, cs =>
    match cs with
    | '"' :: '"' :: '"' :: rest => do
      let (text, rest') ← manyLines '"' rest
      return (.text text, rest')
    | '\'' :: '\'' :: '\'' :: rest => do
      let (text, rest') ← manyLines '\'' rest
      return (.text text, rest')
    | '"' :: rest => do
      let (text, rest') ← oneLine '"' rest
      return (.text text, rest')
    | '\'' :: rest => do
      let (text, rest') ← oneLine '\'' rest
      return (.text text, rest')
    | '[' :: rest => do
      let (vs, rest') ← arrayItems fuel rest
      return (.list vs, rest')
    | '\x7b' :: rest =>
      match skipSpaces rest with
      | '\x7d' :: rest' => return (.table [], rest')
      | rest' => do
        let (table, rest'') ← inlinePairs fuel [] [] rest'
        return (.table table, rest'')
    | _ => plainScalar cs

/-- The items of an array from here to its closing bracket. -/
def arrayItems : (fuel : Nat) → List Char → Except Failure (List OptionValue × List Char)
  | 0, _ => invalid
  | fuel + 1, cs => do
    match ← skipLines cs.length cs with
    | ']' :: rest => return ([], rest)
    | cs' =>
      let (v, rest) ← value fuel cs'
      match ← skipLines rest.length rest with
      | ']' :: rest' => return ([v], rest')
      | ',' :: rest' =>
        let (vs, rest'') ← arrayItems fuel rest'
        return (v :: vs, rest'')
      | _ => invalid

/-- The pairs of an inline table from here to its closing brace, added to those before. -/
def inlinePairs : (fuel : Nat) → Marks → OptionTable → List Char →
    Except Failure (OptionTable × List Char)
  | 0, _, _, _ => invalid
  | fuel + 1, marks, table, cs => do
    let (k, rest) ← key cs.length cs
    let (v, rest') ← value fuel (← equals rest)
    let table' ← addInline marks table k v
    match skipSpaces rest' with
    | '\x7d' :: rest'' => return (table', rest'')
    | ',' :: rest'' =>
      let marks' := if isContainer v then marks ++ [(k, .closed)] else marks
      inlinePairs fuel marks' table' (skipSpaces rest'')
    | _ => invalid

end

def expectText (text : List Char) (cs : List Char) : Except Failure (List Char) :=
  if text.isPrefixOf cs then .ok (cs.drop text.length) else invalid

/-- The statement that begins here, added to what has been read. -/
def statement (b : Builder) (cs : List Char) : Except Failure (Builder × List Char) :=
  match cs with
  | '[' :: '[' :: rest => do
    let (k, rest') ← key rest.length (skipSpaces rest)
    let b' ← b.atHeader.openListItem k
    return (b', ← expectText [']', ']'] rest')
  | '[' :: rest => do
    let (k, rest') ← key rest.length (skipSpaces rest)
    let b' ← b.atHeader.openTable k
    return (b', ← expectText [']'] rest')
  | _ => do
    let (k, rest) ← key cs.length cs
    let (v, rest') ← value (2 * rest.length + 2) (← equals rest)
    return (← b.addPair k v, rest')

/-- The lines from here on, at most `fuel` of them, added to what has been read. -/
def document : (fuel : Nat) → Builder → List Char → Except Failure OptionTable
  | 0, _, _ => invalid
  | fuel + 1, b, cs =>
    match skipSpaces cs with
    | [] => .ok b.table
    | '\n' :: rest => document fuel b rest
    | c :: rest => do
      let (b', after) ←
        if c = '#' then pure (b, c :: rest)
        else do
          let (b', after) ← statement b (c :: rest)
          pure (b', skipSpaces after)
      match ← skipComment after with
      | [] => return b'.table
      | '\n' :: rest' => document fuel b' rest'
      | _ => invalid

def parse (text : String) : Except Failure OptionTable :=
  let cs := foldLineEnds text.toList
  document (cs.length + 1) .empty cs

end Patchwork.Toml
