/-!
# Lines of a text

A text is cut into lines in two steps: carriage returns, alone or before a line feed, become line
feeds (`foldReturns`), and then every break character ends a line (`splitAtBreaks`). A break at the
very end does not begin another line, so the empty text has no lines at all.
-/

namespace Patchwork.Text

/-- Line feed, vertical tab, form feed, the file, group and record separators, next line, and the
line and paragraph separators each end a line. -/
def isBreak (c : Char) : Bool :=
  c == '\n' || c == '\x0b' || c == '\x0c' || c == '\x1c' || c == '\x1d' || c == '\x1e' ||
    c == '\u0085' || c == '\u2028' || c == '\u2029'

/-- Every carriage return, together with a line feed right after it, becomes one line feed. -/
def foldReturns : List Char → List Char
  | [] => []
  | '\r' :: '\n' :: r => '\n' :: foldReturns r
  | c :: r => (if c = '\r' then '\n' else c) :: foldReturns r

/-- The runs of characters between break characters; a last run that is empty is no line. -/
def splitAtBreaks : List Char → List (List Char)
  | [] => []
  | c :: r =>
    if isBreak c then [] :: splitAtBreaks r
    else match splitAtBreaks r with
      | [] => [[c]]
      | line :: rest => (c :: line) :: rest

def lines (text : String) : List String :=
  (splitAtBreaks (foldReturns text.toList)).map String.ofList

def joinLines (ls : List String) : String := String.intercalate "\n" ls

end Patchwork.Text
