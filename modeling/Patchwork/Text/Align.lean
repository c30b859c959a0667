/-!
# Columns

Filling a text with spaces up to a width; a text that is wider stays as it is.
-/

namespace Patchwork.Text

def spaces (n : Nat) : String := String.ofList (List.replicate n ' ')

def alignRight (width : Nat) (s : String) : String := spaces (width - s.length) ++ s

def alignLeft (width : Nat) (s : String) : String := s ++ spaces (width - s.length)

end Patchwork.Text
