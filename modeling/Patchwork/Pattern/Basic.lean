import Patchwork.Text.Blank
import Patchwork.Text.Word

/-!
# Patterns

A `Pattern` describes texts: it is the source it was written as, the tree that source stands for,
and the numbers of its named groups. What the leaves of the tree accept is said here; how a tree is
read from its source, and which syntax that takes, is in `Pattern.Parse`, how it is searched for in
`Pattern.Search`. Letters that count in either case are those of ASCII.
-/

namespace Patchwork.Pattern

/-- A kind of characters with a name of its own. -/
inductive Category where
  | digit
  | blank
  | word
deriving DecidableEq

def Category.contains : Category → Char → Bool
  | digit => Text.isDigit
  | blank => Text.isBlank
  | word => Text.isWord

inductive SetItem where
  | char (c : Char)
  | range (least greatest : Char)
  | category (category : Category) (negated : Bool)
deriving DecidableEq

def SetItem.contains : SetItem → Char → Bool
  | char d, c => c = d
  | range least greatest, c => least ≤ c && c ≤ greatest
  | category cat negated, c => cat.contains c != negated

/-- A set of characters: those that some item describes, or those that none does. -/
structure CharSet where
  negated : Bool
  items : List SetItem
deriving DecidableEq

/-- Is the character in the set? With `fold` the letters of ASCII count in either case. -/
def CharSet.contains (s : CharSet) (fold : Bool) (c : Char) : Bool :=
  let described := s.items.any fun item =>
    item.contains c || (fold && (item.contains c.toLower || item.contains c.toUpper))
  described != s.negated

/-- A condition on the place between two characters. -/
inductive Boundary where
  /-- Nothing comes before. -/
  | textStart
  /-- Nothing comes before, or a line feed. -/
  | lineStart
  /-- Nothing follows. -/
  | textEnd
  /-- Nothing follows, or only a last line feed. -/
  | lastLineEnd
  /-- Nothing follows, or a line feed. -/
  | lineEnd
  /-- A word begins or ends here. -/
  | word
  /-- No word begins or ends here, in a text that is not empty. -/
  | notWord
deriving DecidableEq

def Boundary.holds (previous : Option Char) (rest : List Char) : Boundary → Bool
  | textStart => previous.isNone
  | lineStart => previous.isNone || previous == some '\n'
  | textEnd => rest.isEmpty
  | lastLineEnd => rest.isEmpty || rest == ['\n']
  | lineEnd => rest.isEmpty || rest.head? == some '\n'
  | word => previous.any Text.isWord != rest.head?.any Text.isWord
  | notWord =>
    (previous.isSome || !rest.isEmpty) && previous.any Text.isWord == rest.head?.any Text.isWord

/-- In which order the numbers of repetitions are tried. -/
inductive Greed where
  | greedy
  | lazy
  /-- As many as possible, and no other number. -/
  | possessive
deriving DecidableEq

inductive Node where
  /-- Accepts without taking anything. -/
  | nothing
  | char (c : Char) (fold : Bool)
  /-- Any character; a line feed only with `lineFeed`. -/
  | any (lineFeed : Bool)
  | set (s : CharSet) (fold : Bool)
  | boundary (b : Boundary)
  /-- The text that the group took last. -/
  | reference (group : Nat) (fold : Bool)
  | sequence (first second : Node)
  | choice (first second : Node)
  | repetition (greed : Greed) (least : Nat) (most : Option Nat) (body : Node)
  /-- A group; with a number, what it takes is kept under that number. -/
  | group (number : Option Nat) (body : Node)
  /-- A group whose first way of matching is its only one. -/
  | atomic (body : Node)
deriving DecidableEq

/-- Are the characters the same, with `fold` in either case? -/
def sameChar (fold : Bool) (c d : Char) : Bool :=
  c = d || (fold && c.toLower = d.toLower)

end Patchwork.Pattern

namespace Patchwork

/-- A pattern: its source, its tree, and the numbers of its named groups. -/
structure Pattern where
  source : String
  tree : Pattern.Node
  groups : List (String × Nat)
deriving DecidableEq

end Patchwork
