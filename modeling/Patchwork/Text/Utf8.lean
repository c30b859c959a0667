import Patchwork.Text.Quoted

/-!
# Strict UTF-8

Bytes are read as UTF-8 without leniency: no overlong forms, no surrogates, nothing above U+10FFFF.
Where bytes are not UTF-8, `firstMalformed` names the first sequence that breaks off: its position,
the octets of it that were still in order (the longest start of a sequence), and why it ends there.
-/

namespace Patchwork.Text

/-- Why a sequence of octets is not a character. -/
inductive MalformedReason where
  /-- No sequence begins with this octet. -/
  | badStart
  /-- The next octet cannot follow the ones before it. -/
  | badContinuation
  /-- The bytes end inside the sequence. -/
  | unfinished
deriving DecidableEq

/-- A broken sequence: the offset of its first octet and the octets that belong to it. -/
structure Malformed where
  position : Nat
  octets : List UInt8
  reason : MalformedReason
deriving DecidableEq

/-- For each octet that has to follow `lead`, the least and the greatest it may be; nothing if
`lead` begins no sequence. -/
def followers? (lead : UInt8) : Option (List (UInt8 × UInt8)) :=
  if lead < 0x80 then some []
  else if lead < 0xC2 then none
  else if lead < 0xE0 then some [(0x80, 0xBF)]
  else if lead = 0xE0 then some [(0xA0, 0xBF), (0x80, 0xBF)]
  else if lead = 0xED then some [(0x80, 0x9F), (0x80, 0xBF)]
  else if lead < 0xF0 then some [(0x80, 0xBF), (0x80, 0xBF)]
  else if lead = 0xF0 then some [(0x90, 0xBF), (0x80, 0xBF), (0x80, 0xBF)]
  else if lead < 0xF4 then some [(0x80, 0xBF), (0x80, 0xBF), (0x80, 0xBF)]
  else if lead = 0xF4 then some [(0x80, 0x8F), (0x80, 0xBF), (0x80, 0xBF)]
  else none

/-- The first broken sequence in the octets from `position` on, when the sequence that began with
`taken` still waits for `owed`. -/
def firstMalformedFrom (position : Nat) (taken : List UInt8) :
    (owed : List (UInt8 × UInt8)) → List UInt8 → Option Malformed
  | [], [] => none
  | _ :: _, [] => some ⟨position - taken.length, taken, .unfinished⟩
  | [], b :: rest =>
    match followers? b with
    | none => some ⟨position, [b], .badStart⟩
    | some owed => firstMalformedFrom (position + 1) [b] owed rest
  | (least, greatest) :: owed, b :: rest =>
    if least ≤ b ∧ b ≤ greatest then firstMalformedFrom (position + 1) (taken ++ [b]) owed rest
    else some ⟨position - taken.length, taken, .badContinuation⟩

/-- The first sequence that is not UTF-8. -/
def firstMalformed (bytes : ByteArray) : Option Malformed :=
  firstMalformedFrom 0 [] [] bytes.toList

/-- The text the bytes stand for, or the first sequence that stands for nothing. -/
def decode (bytes : ByteArray) : Except Malformed String :=
  match String.fromUTF8? bytes with
  | some text => .ok text
  | none => .error ((firstMalformed bytes).getD ⟨bytes.size, [], .unfinished⟩)

def MalformedReason.text : MalformedReason → String
  | .badStart => "invalid start byte"
  | .badContinuation => "invalid continuation byte"
  | .unfinished => "unexpected end of data"

/-- The wording of a broken sequence: a single octet is shown with its position, several only with
the first and the last position. -/
def Malformed.message (m : Malformed) : String :=
  let which := match m.octets with
    | [b] => s!"byte 0x{String.ofList (hexDigits 2 b.toNat)} in position {m.position}"
    | octets => s!"bytes in position {m.position}-{m.position + octets.length - 1}"
  s!"'utf-8' codec can't decode {which}: {m.reason.text}"

end Patchwork.Text
