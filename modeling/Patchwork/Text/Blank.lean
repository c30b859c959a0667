/-!
# Blank characters

Which characters count as white space, trimming a text of them, and the blank text that takes the
place of a line whose content is to disappear without moving anything.
-/

namespace Patchwork.Text

/-- White space: the separators of Unicode, the ASCII control characters from tab to carriage return
and from the file to the unit separator, and the next-line control. -/
def isBlank (c : Char) : Bool :=
  let n := c.toNat
  (9 ≤ n && n ≤ 13) || (28 ≤ n && n ≤ 32) || n == 0x85 || n == 0xA0 || n == 0x1680 ||
    (0x2000 ≤ n && n ≤ 0x200A) || n == 0x2028 || n == 0x2029 || n == 0x202F || n == 0x205F ||
    n == 0x3000

/-- The text without the characters at its two ends that satisfy `p`. -/
def trimBy (p : Char → Bool) (s : String) : String :=
  String.ofList ((s.toList.dropWhile p).reverse.dropWhile p).reverse

def trim (s : String) : String := trimBy isBlank s

/-- As many spaces as the text has code points. -/
def blank (s : String) : String := String.ofList (List.replicate s.length ' ')

@[simp] theorem toList_blank (s : String) : (blank s).toList = List.replicate s.length ' ' := by
  simp [blank]

@[simp] theorem length_blank (s : String) : (blank s).length = s.length := by
  simp [blank]

@[simp] theorem blank_blank (s : String) : blank (blank s) = blank s := by
  simp only [blank, String.length_ofList, List.length_replicate]

end Patchwork.Text
