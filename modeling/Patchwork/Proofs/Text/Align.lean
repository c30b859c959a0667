import Patchwork.Text.Align

/-!
# Columns and numbers

What filling a text up to a width makes of it, and which characters a number is written with.
-/

namespace Patchwork.Text

theorem length_alignRight (width : Nat) (s : String) :
    (alignRight width s).length = max width s.length := by
  rw [alignRight, String.length_append, spaces, String.length_ofList, List.length_replicate]
  omega

theorem toList_alignRight (width : Nat) (s : String) :
    (alignRight width s).toList = List.replicate (width - s.length) ' ' ++ s.toList := by
  rw [alignRight, String.toList_append, spaces, String.toList_ofList]

/-- A number is written with digits, and perhaps a minus sign. -/
theorem eq_minus_or_isDigit_of_mem {n : Int} {c : Char} (h : c ∈ (toString n).toList) :
    c = '-' ∨ c.isDigit = true := by
  have hdigits : ∀ n : Nat, c ∈ Nat.toDigits 10 n → c.isDigit = true := fun n hmem =>
    Nat.isDigit_of_mem_toDigits (by decide) (by decide) hmem
  cases n with
  | ofNat n =>
    have htext : (toString (Int.ofNat n)).toList = Nat.toDigits 10 n := by
      show (toString n).toList = _
      rw [Nat.toString_eq_repr, Nat.toList_repr]
    rw [htext] at h
    exact Or.inr (hdigits n h)
  | negSucc n =>
    have htext : (toString (Int.negSucc n)).toList = '-' :: Nat.toDigits 10 (n + 1) := by
      show ("-" ++ (n + 1).repr).toList = _
      rw [String.toList_append, Nat.toList_repr]
      rfl
    rw [htext] at h
    rcases List.mem_cons.1 h with hminus | h
    · exact Or.inl hminus
    · exact Or.inr (hdigits (n + 1) h)

theorem not_mem_toString {c : Char} (hminus : c ≠ '-') (hdigit : c.isDigit = false) (n : Int) :
    c ∉ (toString n).toList := by
  intro h
  rcases eq_minus_or_isDigit_of_mem h with h | h
  · exact hminus h
  · rw [hdigit] at h
    cases h

end Patchwork.Text
