import Patchwork.Toml.Scalar

/-!
# Tables within tables

How the headers and dotted keys of a TOML document build nested tables, and what they may not do:
what has been declared once must not be declared again, and the inside of an array or table that was
written as a value is closed for good. These rules are kept as marks on keys (`Mark`).
-/

namespace Patchwork.Toml

/-- A key from the root of a document, or of an inline table. -/
abbrev Key := List String

/-! ## Reaching into tables -/

def changeLast (f : OptionValue → Except Failure OptionValue) :
    List OptionValue → Except Failure (List OptionValue)
  | [] => invalid
  | [v] => return [← f v]
  | v :: rest => return v :: (← changeLast f rest)

/-- Changes the table that the key leads to; tables that are missing on the way are made. Through a
list the way leads on in its last element, where `throughLists` allows it. -/
def inside (throughLists : Bool) (f : OptionTable → Except Failure OptionTable) :
    Key → OptionTable → Except Failure OptionTable
  | [], t => f t
  | k :: ks, t => do
    let entry ←
      match t.lookup k with
      | none => pure (.table (← inside throughLists f ks []))
      | some (.table t') => pure (.table (← inside throughLists f ks t'))
      | some (.list vs) =>
        if throughLists then
          let changed ← changeLast (fun v =>
            match v with
            | .table t' => return .table (← inside throughLists f ks t')
            | _ => invalid) vs
          pure (.list changed)
        else invalid
      | some _ => invalid
    return t.put k entry

def addEntry (name : String) (value : OptionValue) (t : OptionTable) : Except Failure OptionTable :=
  if (t.lookup name).isSome then invalid else .ok (t.put name value)

/-- Adds an empty table to the list of tables under a name. -/
def addTable (name : String) (t : OptionTable) : Except Failure OptionTable :=
  match t.lookup name with
  | none => .ok (t.put name (.list [.table []]))
  | some (.list vs) => .ok (t.put name (.list (vs ++ [.table []])))
  | some _ => invalid

/-! ## Marks -/

/-- What a mark on a key forbids. -/
inductive Mark where
  /-- Declaring the key as a table. -/
  | declared
  /-- Changing anything at or below the key. -/
  | closed
deriving DecidableEq

abbrev Marks := List (Key × Mark)

/-- Does the key bear the mark? What is closed is closed with all that is below it. -/
def Marks.has (marks : Marks) (key : Key) (mark : Mark) : Bool :=
  match mark with
  | .declared => marks.contains (key, .declared)
  | .closed => key ≠ [] && marks.any fun m => m.2 = .closed && m.1.isPrefixOf key

/-- The marks without those on the key or below it. -/
def Marks.without (marks : Marks) (key : Key) : Marks := marks.filter fun m => !key.isPrefixOf m.1

/-- The part of a key before its last name, and that name. -/
def splitLast (key : Key) : Key × String := (key.dropLast, key.getLast?.getD "")

/-- Must the inside of the value stay as it was written? -/
def isContainer : OptionValue → Bool
  | .table _ | .list _ => true
  | _ => false

/-! ## The document as it is read -/

/-- What has been read: the tables, the marks, the keys that become declared with the next header,
and the table that the last header opened. -/
structure Builder where
  table : OptionTable
  marks : Marks
  pending : List Key
  header : Key

namespace Builder

def empty : Builder := ⟨[], [], [], []⟩

/-- A header begins: the pending keys are declared from now on. -/
def atHeader (b : Builder) : Builder :=
  { b with marks := b.marks ++ b.pending.map fun k => (k, .declared), pending := [] }

def openTable (b : Builder) (key : Key) : Except Failure Builder :=
  if b.marks.has key .declared || b.marks.has key .closed then invalid
  else do
    let table ← inside true .ok key b.table
    return { b with table, marks := b.marks ++ [(key, .declared)], header := key }

/-- The header of another table in a list of tables; what was declared in the one before is free
again. -/
def openListItem (b : Builder) (key : Key) : Except Failure Builder :=
  if b.marks.has key .closed then invalid
  else do
    let (parent, name) := splitLast key
    let table ← inside true (addTable name) parent b.table
    return { b with table, marks := b.marks.without key ++ [(key, .declared)], header := key }

/-- The keys that a dotted key passes on its way below the header. -/
def passed (b : Builder) (key : Key) : List Key :=
  (List.range (key.length - 1)).map fun i => b.header ++ key.take (i + 1)

def addPair (b : Builder) (key : Key) (value : OptionValue) : Except Failure Builder :=
  let (parent, name) := splitLast key
  let above := b.passed key
  if above.any fun k => b.marks.has k .declared then invalid
  else if b.marks.has (b.header ++ parent) .closed then invalid
  else do
    let table ← inside true (addEntry name value) (b.header ++ parent) b.table
    let marks := if isContainer value then b.marks ++ [(b.header ++ key, .closed)] else b.marks
    return { b with table, marks, pending := b.pending ++ above }

end Builder

end Patchwork.Toml
