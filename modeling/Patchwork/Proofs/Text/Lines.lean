import Patchwork.Text.Blank
import Patchwork.Text.Lines
import Patchwork.Text.Utf8

/-!
# Trimmed texts and lines

The octets of a text stand for it. What trimming leaves of a text is in the text. The lines of a
text are single lines (`OneLine`): they hold neither break characters nor carriage returns. So lines
that are joined by line feeds are found again where the joined text is cut at its line feeds, and
also where it is cut into lines as texts are (`lines_joinLines`).
-/

namespace Patchwork.Text

theorem decode_toUTF8 (text : String) : decode text.toUTF8 = .ok text := by
  have hvalid : String.fromUTF8? text.toUTF8 = some text := dif_pos text.isValidUTF8
  rw [decode, hvalid]

/-! ## Trimming -/

theorem trimBy_eq {p : Char → Bool} {s : String} (h : ∀ c ∈ s.toList, p c = false) :
    trimBy p s = s := by
  have hkeep : ∀ cs : List Char, (∀ c ∈ cs, p c = false) → cs.dropWhile p = cs := by
    intro cs hcs
    cases cs with
    | nil => rfl
    | cons c cs =>
      rw [List.dropWhile_cons_of_neg]
      simp [hcs c List.mem_cons_self]
  rw [trimBy, hkeep _ h, hkeep _ fun c hc => h c (List.mem_reverse.1 hc), List.reverse_reverse,
    String.ofList_toList]

theorem mem_of_mem_trim {s : String} {c : Char} (h : c ∈ (trim s).toList) : c ∈ s.toList := by
  rw [trim, trimBy, String.toList_ofList, List.mem_reverse] at h
  have h := (List.dropWhile_sublist _).mem h
  rw [List.mem_reverse] at h
  exact (List.dropWhile_sublist _).mem h

/-! ## Lines -/

/-- The text is a single line: neither a break character nor a carriage return is in it. -/
def OneLine (x : String) : Prop := ∀ c ∈ x.toList, isBreak c = false ∧ c ≠ '\r'

theorem ne_return_of_mem_foldReturns {cs : List Char} : ∀ c ∈ foldReturns cs, c ≠ '\r' := by
  fun_induction foldReturns cs with
  | case1 => simp
  | case2 r ih => exact List.forall_mem_cons.2 ⟨by decide, ih⟩
  | case3 d r _ ih =>
    refine List.forall_mem_cons.2 ⟨?_, ih⟩
    by_cases hd : d = '\r'
    · simp [hd]
    · simp [hd]

theorem foldReturns_eq_self {cs : List Char} (h : ∀ c ∈ cs, c ≠ '\r') : foldReturns cs = cs := by
  fun_induction foldReturns cs with
  | case1 => rfl
  | case2 r ih => exact absurd rfl (h '\r' List.mem_cons_self)
  | case3 d r _ ih =>
    obtain ⟨hd, hr⟩ := List.forall_mem_cons.1 h
    rw [if_neg hd, ih hr]

/-- The pieces between breaks hold characters that were there and are no breaks. -/
theorem mem_of_mem_splitAtBreaks {cs : List Char} :
    ∀ l ∈ splitAtBreaks cs, ∀ c ∈ l, c ∈ cs ∧ isBreak c = false := by
  induction cs with
  | nil => simp [splitAtBreaks]
  | cons c cs ih =>
    have hkeep : ∀ l ∈ splitAtBreaks cs, ∀ d ∈ l, d ∈ c :: cs ∧ isBreak d = false :=
      fun l hl d hd => ⟨List.mem_cons_of_mem c (ih l hl d hd).1, (ih l hl d hd).2⟩
    rw [splitAtBreaks]
    by_cases hc : isBreak c = true
    · rw [if_pos hc]
      exact List.forall_mem_cons.2 ⟨by simp, hkeep⟩
    · have hfirst : c ∈ c :: cs ∧ isBreak c = false := ⟨List.mem_cons_self, by simpa using hc⟩
      rw [if_neg hc]
      split
      · simpa using hfirst.2
      · next line rest hsplit =>
        obtain ⟨hline, hrest⟩ := List.forall_mem_cons.1 (hsplit ▸ hkeep)
        exact List.forall_mem_cons.2 ⟨List.forall_mem_cons.2 ⟨hfirst, hline⟩, hrest⟩

theorem oneLine_of_mem_lines {text x : String} (h : x ∈ lines text) : OneLine x := by
  obtain ⟨l, hl, rfl⟩ := List.mem_map.1 h
  intro c hc
  rw [String.toList_ofList] at hc
  obtain ⟨hmem, hbreak⟩ := mem_of_mem_splitAtBreaks l hl c hc
  exact ⟨hbreak, ne_return_of_mem_foldReturns c hmem⟩

theorem oneLine_blank (x : String) : OneLine (blank x) := by
  intro c hc
  rw [toList_blank] at hc
  rw [List.eq_of_mem_replicate hc]
  decide

theorem joinLines_cons_cons (x y : String) (ls : List String) :
    joinLines (x :: y :: ls) = x ++ ("\n" ++ joinLines (y :: ls)) := by
  rw [joinLines, String.intercalate_cons_cons, String.append_assoc, joinLines]

/-- Joined lines are found again at the line feeds. -/
theorem splitOn_joinLines {ls : List String} (hne : ls ≠ [])
    (h : ∀ x ∈ ls, ∀ c ∈ x.toList, isBreak c = false) :
    (joinLines ls).toList.splitOn '\n' = ls.map String.toList := by
  rw [joinLines, String.toList_intercalate]
  have hne : ls.map String.toList ≠ [] := by simpa using hne
  refine List.splitOn_intercalate '\n' (List.forall_mem_map.2 fun x hx hmem => ?_) hne
  have hfeed := h x hx '\n' hmem
  revert hfeed
  decide

/-! ## Cutting joined lines again -/

theorem splitAtBreaks_append {l : List Char} (h : ∀ c ∈ l, isBreak c = false) {b : Char}
    (hb : isBreak b = true) (cs : List Char) :
    splitAtBreaks (l ++ b :: cs) = l :: splitAtBreaks cs := by
  induction l with
  | nil => rw [List.nil_append, splitAtBreaks, if_pos hb]
  | cons c l ih =>
    obtain ⟨hc, hl⟩ := List.forall_mem_cons.1 h
    rw [List.cons_append, splitAtBreaks, ih hl]
    simp [hc]

/-- Joined lines with a line feed after them are the lines with a line feed after each. -/
theorem toList_joinLines_append {ls : List String} (hne : ls ≠ []) :
    (joinLines ls ++ "\n").toList = ls.flatMap fun x => x.toList ++ ['\n'] := by
  have hfeed : "\n".toList = ['\n'] := rfl
  rw [String.toList_append, joinLines, String.toList_intercalate, hfeed]
  induction ls with
  | nil => exact absurd rfl hne
  | cons x ls ih =>
    cases ls with
    | nil => simp
    | cons y ls =>
      rw [List.map_cons, List.map_cons, List.intercalate_cons_cons, List.flatMap_cons,
        ← ih (List.cons_ne_nil y ls), List.map_cons]
      simp

/-- **Joined lines are read back.** Where each text is a single line, joining them by line feeds and
closing the last one loses nothing, wherever there are empty lines. -/
theorem lines_joinLines {ls : List String} (hne : ls ≠ []) (h : ∀ x ∈ ls, OneLine x) :
    lines (joinLines ls ++ "\n") = ls := by
  have hfold : foldReturns (ls.flatMap fun x => x.toList ++ ['\n']) =
      ls.flatMap fun x => x.toList ++ ['\n'] := by
    apply foldReturns_eq_self
    intro c hc
    obtain ⟨x, hx, hc⟩ := List.mem_flatMap.1 hc
    rcases List.mem_append.1 hc with hc | hc
    · exact (h x hx c hc).2
    · rw [List.mem_singleton.1 hc]
      decide
  rw [lines, toList_joinLines_append hne, hfold]
  clear hne hfold
  induction ls with
  | nil => rfl
  | cons x ls ih =>
    obtain ⟨hx, hls⟩ := List.forall_mem_cons.1 h
    rw [List.flatMap_cons, List.append_assoc, List.singleton_append,
      splitAtBreaks_append (fun c hc => (hx c hc).1) (by decide), List.map_cons, ih hls,
      String.ofList_toList]

end Patchwork.Text
