/-!
# Escape sequences for colours

Colours are switched on and off by escape sequences: the escape character, an opening bracket,
parameters, and a letter. `Ansi.strip` takes all of them out of a text, as is done when it does not
go to a terminal.
-/

namespace Patchwork.Ansi

def esc : Char := '\x1b'

/-- The sequence that sets the given display attributes. -/
def attributes (parameters : String) : String := String.ofList [esc, '['] ++ parameters ++ "m"

/-- May the character stand among the parameters of a sequence? -/
def isParameter (c : Char) : Bool := c == ';' || c == '?' || c.isDigit

/-- What follows the escape sequence that the text begins with. -/
def afterSequence? : List Char → Option (List Char)
  | c :: '[' :: rest =>
    if c = esc then
      match rest.dropWhile isParameter with
      | d :: rest' => if d.isAlpha then some rest' else none
      | [] => none
    else none
  | _ => none

theorem length_afterSequence?_lt {cs rest : List Char} (h : afterSequence? cs = some rest) :
    rest.length < cs.length := by
  unfold afterSequence? at h
  split at h
  · next tail =>
    split at h
    · split at h
      · next d rest' hd =>
        split at h
        · cases h
          have := (List.dropWhile_suffix (p := isParameter) (l := tail)).length_le
          rw [hd] at this
          simp only [List.length_cons] at this ⊢
          omega
        · cases h
      · cases h
    · cases h
  · cases h

/-- The text without its escape sequences, found from left to right. -/
def stripChars : List Char → List Char
  | [] => []
  | c :: rest =>
    match _h : afterSequence? (c :: rest) with
    | some after => stripChars after
    | none => c :: stripChars rest
termination_by cs => cs.length
decreasing_by
  · exact length_afterSequence?_lt _h
  · exact Nat.lt_succ_self _

def strip (s : String) : String := String.ofList (stripChars s.toList)

end Patchwork.Ansi
