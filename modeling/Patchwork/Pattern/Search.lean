import Patchwork.Pattern.Basic

/-!
# Searching for a pattern

A search walks the tree of a pattern along the text and tries the ways it can match in a fixed
order: the first choice before the second, greedy repetitions longest first, lazy ones shortest
first. Each part of the tree is a `Step`: it hands every place it can reach, in that order, to the
rest of the search, until the rest succeeds.

A repetition makes no further round once a round it was free to make has taken nothing, so the
number of its rounds is bounded by what is left of the text.
-/

namespace Patchwork.Pattern

/-- How far a search has come: the characters passed and left, and what the groups took, latest
first. -/
structure Cursor where
  position : Nat
  previous : Option Char
  rest : List Char
  captures : List (Nat × (Nat × Nat))

/-- The cursor after a group, numbered or not, that began at `start`. -/
def Cursor.keep (c : Cursor) (number : Option Nat) (start : Nat) : Cursor :=
  match number with
  | none => c
  | some n => { c with captures := (n, (start, c.position)) :: c.captures }

/-- A part of a search: tries the rest of the search at each place it can reach. -/
abbrev Step := Cursor → (Cursor → Option Cursor) → Option Cursor

def takeIf (p : Char → Bool) : Step := fun c k =>
  match c.rest with
  | [] => none
  | d :: rest =>
    if p d then k { c with position := c.position + 1, previous := some d, rest } else none

def takeAll (fold : Bool) : List Char → Step
  | [], c, k => k c
  | d :: ds, c, k => takeIf (sameChar fold d) c fun c' => takeAll fold ds c' k

/-- Rounds of `body`: at least `least` and at most `most` more. `last` is where the last round that
did not have to be made began: if it has taken nothing, no further round is made. -/
def rounds (body : Step) (greed : Greed) :
    (fuel least : Nat) → (most last : Option Nat) → Step
  | 0, _, _, _, _, _ => none
  | fuel + 1, least, most, last, c, k =>
    if 0 < least then
      body c fun c' => rounds body greed fuel (least - 1) (most.map (· - 1)) last c' k
    else
      let again (_ : Unit) : Option Cursor :=
        if most = some 0 ∨ last = some c.position then none
        else body c fun c' =>
          rounds body greed fuel 0 (most.map (· - 1)) (some c.position) c' k
      match greed with
      | .lazy => (k c).orElse again
      | _ => (again ()).orElse fun _ => k c

/-- The search for a tree in `text`, from a place in it. -/
def Node.run (text : List Char) : Node → Step
  | .nothing, c, k => k c
  | .char d fold, c, k => takeIf (sameChar fold d) c k
  | .any lineFeed, c, k => takeIf (fun d => lineFeed || d != '\n') c k
  | .set s fold, c, k => takeIf (s.contains fold) c k
  | .boundary b, c, k => if b.holds c.previous c.rest then k c else none
  | .reference number fold, c, k =>
    match c.captures.lookup number with
    | none => none
    | some (start, stop) => takeAll fold ((text.drop start).take (stop - start)) c k
  | .sequence first second, c, k => first.run text c fun c' => second.run text c' k
  | .choice first second, c, k => (first.run text c k).orElse fun _ => second.run text c k
  | .repetition greed least most body, c, k =>
    let fuel := least + c.rest.length + 2
    match greed with
    | .possessive =>
      (rounds (body.run text) greed fuel least most none c some).bind k
    | _ => rounds (body.run text) greed fuel least most none c k
  | .group number body, c, k => body.run text c fun c' => k (c'.keep number c.position)
  | .atomic body, c, k => (body.run text c some).bind k

/-- Where a pattern matched: the positions before its first and after its last character, and those
of its groups. -/
structure Match where
  start : Nat
  stop : Nat
  captures : List (Nat × (Nat × Nat))
deriving DecidableEq

/-- Tries the tree at each place from the given one on. -/
def Node.searchFrom (text : List Char) (tree : Node) (position : Nat) (previous : Option Char)
    (rest : List Char) : Option Match :=
  match tree.run text ⟨position, previous, rest, []⟩ some with
  | some c => some ⟨position, c.position, c.captures⟩
  | none =>
    match rest with
    | [] => none
    | d :: rest' => searchFrom text tree (position + 1) (some d) rest'

/-- The leftmost match of the pattern in the text. -/
def search (p : Pattern) (text : String) : Option Match :=
  p.tree.searchFrom text.toList 0 none text.toList

end Patchwork.Pattern
