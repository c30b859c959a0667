import Patchwork.Pattern.Token

/-!
# Reading patterns

The tokens of a source are put together from left to right (`Builder.step`): what has been read of
the groups still open is kept in a stack of frames, and closing a group adds its tree to the frame
around it. `Pattern.compile?` answers nothing if the source does not read as a pattern.

The syntax is a part of what patterns can be written in elsewhere. It has no lookahead or
lookbehind, no conditional groups, no comments and no characters by name, and of the modes it has
`i`, `m`, `s` and `u`; where letters count in either case, those of ASCII do. A source that needs
more than this does not read as a pattern here. Passes do not depend on the syntax: they take any
`Matcher`.
-/

namespace Patchwork.Pattern

/-- What the parenthesis that began a frame was. -/
inductive FrameKind where
  | whole
  | capture (number : Nat)
  | plain
  | atomic
deriving DecidableEq

/-- A group that is being read: its finished choices, and the parts of the current one, latest
first. -/
structure Frame where
  kind : FrameKind
  flags : Flags
  choices : List Node
  parts : List Node

/-- What has been read so far: the innermost open group, those around it, how many groups take
numbers, and which of them have names. -/
structure Builder where
  inner : Frame
  outer : List Frame
  groupCount : Nat
  groups : List (String × Nat)

/-- The parts, latest first, one after the other. -/
def sequenceOf : List Node → Node
  | [] => .nothing
  | [n] => n
  | n :: rest => .sequence (sequenceOf rest) n

/-- The choices, latest first, the earlier before the later. -/
def choiceOf : List Node → Node
  | [] => .nothing
  | [n] => n
  | n :: rest => .choice (choiceOf rest) n

namespace Frame

def add (f : Frame) (n : Node) : Frame := { f with parts := n :: f.parts }

/-- The tree of all that the frame holds. -/
def tree (f : Frame) : Node := choiceOf (sequenceOf f.parts :: f.choices)

/-- The tree of the frame as a part of the frame around it. -/
def close (f : Frame) : Option Node :=
  match f.kind with
  | .whole => none
  | .capture number => some (.group (some number) f.tree)
  | .plain => some (.group none f.tree)
  | .atomic => some (.atomic f.tree)

end Frame

namespace Builder

def start : Builder := ⟨⟨.whole, .none, [], []⟩, [], 0, []⟩

def add (b : Builder) (n : Node) : Builder := { b with inner := b.inner.add n }

def isOpen (b : Builder) (number : Nat) : Bool :=
  (b.inner :: b.outer).any fun f => f.kind = .capture number

def openFrame (b : Builder) (kind : FrameKind) (flags : Flags) : Builder :=
  { b with inner := ⟨kind, flags, [], []⟩, outer := b.inner :: b.outer }

/-- Opens a group that takes the next number, and perhaps a name that no other has. -/
def openCapture (b : Builder) (name : Option String) : Option Builder :=
  let number := b.groupCount + 1
  let opened := { b.openFrame (.capture number) b.inner.flags with groupCount := number }
  match name with
  | none => some opened
  | some n =>
    if (b.groups.lookup n).isSome then none
    else some { opened with groups := b.groups ++ [(n, number)] }

/-- Repeats the last part, unless that is a boundary or a repetition itself. -/
def repeatLast (b : Builder) (greed : Greed) (least : Nat) (most : Option Nat) : Option Builder :=
  match b.inner.parts with
  | [] | .boundary _ :: _ | .repetition .. :: _ => none
  | n :: rest =>
    some { b with inner := { b.inner with parts := .repetition greed least most n :: rest } }

def step (b : Builder) (t : Token) : Option Builder :=
  let flags := b.inner.flags
  match t with
  | .char c => some (b.add (.char c flags.ignoreCase))
  | .any => some (b.add (.any flags.dotAll))
  | .set s => some (b.add (.set s flags.ignoreCase))
  | .boundary place => some (b.add (.boundary place))
  | .caret => some (b.add (.boundary (if flags.multiline then .lineStart else .textStart)))
  | .dollar => some (b.add (.boundary (if flags.multiline then .lineEnd else .lastLineEnd)))
  | .referenceTo name => do
    let number ← b.groups.lookup name
    if b.isOpen number then none else some (b.add (.reference number flags.ignoreCase))
  | .referenceAt number =>
    if b.groupCount < number ∨ b.isOpen number then none
    else some (b.add (.reference number flags.ignoreCase))
  | .repetition greed least most => b.repeatLast greed least most
  | .openGroup (.capture name) => b.openCapture name
  | .openGroup (.plain on off) =>
    some (b.openFrame .plain
      { ignoreCase := (flags.ignoreCase || on.ignoreCase) && !off.ignoreCase
        multiline := (flags.multiline || on.multiline) && !off.multiline
        dotAll := (flags.dotAll || on.dotAll) && !off.dotAll })
  | .openGroup .atomic => some (b.openFrame .atomic flags)
  | .closeGroup =>
    match b.outer with
    | [] => none
    | f :: outer => do
      let n ← b.inner.close
      return { b with inner := f.add n, outer }
  | .bar =>
    some { b with inner := { b.inner with
      choices := sequenceOf b.inner.parts :: b.inner.choices, parts := [] } }
  | .setFlags on =>
    if b.outer.isEmpty && b.inner.parts.isEmpty && b.inner.choices.isEmpty then
      some { b with inner := { b.inner with flags :=
        { ignoreCase := flags.ignoreCase || on.ignoreCase
          multiline := flags.multiline || on.multiline
          dotAll := flags.dotAll || on.dotAll } } }
    else none

end Builder

/-- The pattern a source stands for, if it reads as one. -/
def compile? (source : String) : Option Pattern := do
  let ts ← tokens source
  let b ← ts.foldlM Builder.step .start
  guard b.outer.isEmpty
  return ⟨source, b.inner.tree, b.groups⟩

end Patchwork.Pattern
