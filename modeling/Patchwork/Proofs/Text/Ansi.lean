import Patchwork.Proofs.Text.Align
import Patchwork.Proofs.Text.Lines
import Patchwork.Text.Ansi

/-!
# Taking out escape sequences

Taking the escape sequences out of two texts that are put together is not the same as taking them out
of each: what the first leaves unfinished, the second may finish. It is the same if the second begins
with a character that no unfinished sequence goes on with (`Interrupts`), such as a line feed, a space
or the escape character of another sequence (`strip_append`), or if the first holds no escape character
at all (`strip_append_of_clean`).
-/

namespace Patchwork.Ansi

/-- No sequence that has been begun goes on with this text: it ends here, or begins with a character
that stands in no sequence after the escape character. -/
def Interrupts (cs : List Char) : Prop :=
  ∀ c ∈ cs.head?, c ≠ '[' ∧ isParameter c = false ∧ c.isAlpha = false

theorem interrupts_nil : Interrupts [] := by
  intro c hc
  cases hc

theorem interrupts_cons {c : Char} {cs : List Char}
    (h : c ≠ '[' ∧ isParameter c = false ∧ c.isAlpha = false) : Interrupts (c :: cs) := by
  intro d hd
  obtain rfl := Option.some.inj hd
  exact h

instance : (cs : List Char) → Decidable (Interrupts cs)
  | [] => isTrue interrupts_nil
  | c :: _ =>
    decidable_of_iff (c ≠ '[' ∧ isParameter c = false ∧ c.isAlpha = false)
      ⟨interrupts_cons, fun h => h c rfl⟩

theorem Interrupts.append {cs ds : List Char} (hcs : Interrupts cs) (hds : Interrupts ds) :
    Interrupts (cs ++ ds) := by
  cases cs with
  | nil => exact hds
  | cons c cs => exact interrupts_cons (hcs c rfl)

theorem Interrupts.append_text {s : String} (h : Interrupts s.toList) (hne : s ≠ "") (t : String) :
    Interrupts (s ++ t).toList := by
  rw [String.toList_append]
  cases hs : s.toList with
  | nil => exact absurd (String.toList_eq_nil_iff.1 hs) hne
  | cons c cs => exact interrupts_cons (h c (by rw [hs]; rfl))

/-- The text of a sequence interrupts those before it. -/
theorem interrupts_attributes (parameters : String) : Interrupts (attributes parameters).toList := by
  have hesc : Interrupts (String.ofList [esc, '[']).toList := by decide
  rw [attributes, String.append_assoc]
  exact hesc.append_text (by decide) _

/-- There is no escape character in the text. -/
def Clean (s : String) : Prop := esc ∉ s.toList

instance (s : String) : Decidable (Clean s) := inferInstanceAs (Decidable (esc ∉ s.toList))

@[simp] theorem clean_append {s t : String} : Clean (s ++ t) ↔ Clean s ∧ Clean t := by
  simp [Clean]

theorem clean_toString (n : Int) : Clean (toString n) :=
  Text.not_mem_toString (by decide) (by decide) n

theorem clean_alignRight (width : Nat) {s : String} (h : Clean s) :
    Clean (Text.alignRight width s) := by
  rw [Clean, Text.toList_alignRight, List.mem_append, not_or]
  refine ⟨fun hesc => ?_, h⟩
  exact absurd (List.eq_of_mem_replicate hesc) (by decide)

theorem clean_joinLines {ls : List String} (h : ∀ x ∈ ls, Clean x) : Clean (Text.joinLines ls) := by
  induction ls with
  | nil => exact List.not_mem_nil
  | cons x ls ih =>
    obtain ⟨hx, hls⟩ := List.forall_mem_cons.1 h
    cases ls with
    | nil => simpa [Text.joinLines] using hx
    | cons y ls =>
      have hfeed : Clean "\n" := by decide
      rw [Text.joinLines_cons_cons]
      simp [hx, hfeed, ih hls]

/-! ## One sequence -/

theorem afterSequence?_of_ne {c : Char} {cs : List Char} (h : c ≠ esc) :
    afterSequence? (c :: cs) = none := by
  cases cs with
  | nil => rfl
  | cons d cs =>
    unfold afterSequence?
    split
    · next heq =>
      obtain ⟨rfl, -⟩ := List.cons.inj heq
      rw [if_neg h]
    · rfl

/-- A sequence that sets display attributes is one. -/
theorem afterSequence?_attributes {parameters : String}
    (h : ∀ c ∈ parameters.toList, isParameter c = true) (cs : List Char) :
    afterSequence? ((attributes parameters).toList ++ cs) = some cs := by
  have hletter : "m".toList = ['m'] := rfl
  have htext : (attributes parameters).toList ++ cs =
      esc :: '[' :: (parameters.toList ++ 'm' :: cs) := by
    simp [attributes, hletter]
  have hdrop : (parameters.toList ++ 'm' :: cs).dropWhile isParameter = 'm' :: cs := by
    rw [List.dropWhile_append_of_pos h]
    rfl
  rw [htext, afterSequence?, if_pos rfl, hdrop]
  rfl

/-- What interrupts sequences makes no difference to the one that a text before it begins with. -/
theorem afterSequence?_append {c : Char} {cs after : List Char} (h : Interrupts after) :
    afterSequence? (c :: cs ++ after) = (afterSequence? (c :: cs)).map (· ++ after) := by
  by_cases hc : c = esc
  case neg => simp [afterSequence?_of_ne hc]
  case pos =>
    subst hc
    cases cs with
    | nil =>
      cases after with
      | nil => rfl
      | cons d after =>
        have hd : d ≠ '[' := (h d rfl).1
        simp [afterSequence?, hd]
    | cons d cs =>
      by_cases hd : d = '['
      case neg => simp [afterSequence?, hd]
      case pos =>
        subst hd
        simp only [List.cons_append, afterSequence?, if_pos, List.dropWhile_append]
        cases hrest : cs.dropWhile isParameter with
        | cons d cs' => by_cases hd : d.isAlpha <;> simp [hd]
        | nil =>
          cases after with
          | nil => rfl
          | cons d after =>
            obtain ⟨-, hparameter, hletter⟩ := h d rfl
            simp [hparameter, hletter]

/-! ## Whole texts -/

theorem stripChars_of_some {cs after : List Char} (h : afterSequence? cs = some after) :
    stripChars cs = stripChars after := by
  cases cs with
  | nil => cases h
  | cons c cs =>
    rw [stripChars]
    split
    · next heq =>
      obtain rfl := Option.some.inj (h.symm.trans heq)
      rfl
    · next heq => rw [h] at heq; cases heq

theorem stripChars_of_none {c : Char} {cs : List Char} (h : afterSequence? (c :: cs) = none) :
    stripChars (c :: cs) = c :: stripChars cs := by
  rw [stripChars]
  split
  · next heq => rw [h] at heq; cases heq
  · rfl

theorem stripChars_append {after : List Char} (h : Interrupts after) (cs : List Char) :
    stripChars (cs ++ after) = stripChars cs ++ stripChars after := by
  induction cs using stripChars.induct with
  | case1 => simp [stripChars]
  | case2 c cs rest hrest ih =>
    have happend : afterSequence? (c :: cs ++ after) = some (rest ++ after) := by
      rw [afterSequence?_append h, hrest]
      rfl
    rw [stripChars_of_some happend, stripChars_of_some hrest, ih]
  | case3 c cs hrest ih =>
    have happend : afterSequence? (c :: (cs ++ after)) = none := by
      rw [← List.cons_append, afterSequence?_append h, hrest]
      rfl
    rw [List.cons_append, stripChars_of_none happend, stripChars_of_none hrest, ih,
      List.cons_append]

theorem stripChars_append_of_not_mem {cs : List Char} (h : esc ∉ cs) (after : List Char) :
    stripChars (cs ++ after) = cs ++ stripChars after := by
  induction cs with
  | nil => rfl
  | cons c cs ih =>
    simp only [List.mem_cons, not_or] at h
    obtain ⟨hc, hcs⟩ := h
    rw [List.cons_append, stripChars_of_none (afterSequence?_of_ne (Ne.symm hc)), ih hcs,
      List.cons_append]

theorem strip_append {after : String} (h : Interrupts after.toList) (s : String) :
    strip (s ++ after) = strip s ++ strip after := by
  rw [strip, String.toList_append, stripChars_append h, String.ofList_append]
  rfl

theorem strip_append_of_clean {s : String} (h : Clean s) (after : String) :
    strip (s ++ after) = s ++ strip after := by
  rw [strip, String.toList_append, stripChars_append_of_not_mem h, String.ofList_append,
    String.ofList_toList]
  rfl

theorem strip_empty : strip "" = "" := by
  have h : stripChars [] = [] := by rw [stripChars]
  rw [strip, String.toList_empty, h]

/-- A text without escape characters stays as it is. -/
theorem strip_of_clean {s : String} (h : Clean s) : strip s = s := by
  have hstrip := strip_append_of_clean h ""
  rwa [strip_empty, String.append_empty] at hstrip

theorem strip_attributes_append {parameters : String}
    (h : ∀ c ∈ parameters.toList, isParameter c = true) (after : String) :
    strip (attributes parameters ++ after) = strip after := by
  rw [strip, String.toList_append, stripChars_of_some (afterSequence?_attributes h _)]
  rfl

/-- A line feed interrupts sequences, so lines are stripped each for itself. -/
theorem strip_joinLines (ls : List String) :
    strip (Text.joinLines ls) = Text.joinLines (ls.map strip) := by
  induction ls with
  | nil => exact strip_empty
  | cons x ls ih =>
    cases ls with
    | nil => simp [Text.joinLines]
    | cons y ls =>
      have hfeed : strip ("\n" ++ Text.joinLines (y :: ls)) =
          "\n" ++ strip (Text.joinLines (y :: ls)) := strip_append_of_clean (by decide) _
      have hinterrupts : Interrupts ("\n" ++ Text.joinLines (y :: ls)).toList := by
        rw [String.toList_append]
        exact interrupts_cons (by decide)
      rw [Text.joinLines_cons_cons, strip_append hinterrupts, hfeed, ih]
      simp only [List.map_cons, Text.joinLines_cons_cons]

end Patchwork.Ansi
