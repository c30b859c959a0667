import Patchwork.Pattern.Search

/-!
# Where matches lie

A search never leaves the text: the cursor only moves forward, and what a group takes lies between
the place where it began and the cursor (`Step.Advances`). So a match and all that its groups took
lie in the text (`Match.Within`).
-/

namespace Patchwork

namespace Pattern

/-- The cursor stands in a text of `total` characters, in which all that groups took lies. -/
structure Cursor.Within (total : Nat) (c : Cursor) : Prop where
  position : c.position + c.rest.length = total
  captures : ∀ e ∈ c.captures, e.2.1 ≤ e.2.2 ∧ e.2.2 ≤ total

/-- The rest `k` of a search comes to `r` from a cursor in the text that is not before `c`. -/
def Cursor.Reaches (total : Nat) (c : Cursor) (k : Cursor → Option Cursor) (r : Cursor) : Prop :=
  ∃ c', c'.Within total ∧ c.position ≤ c'.position ∧ k c' = some r

/-- A step in the text goes on in the text, and not before the place it began at. -/
def Step.Advances (total : Nat) (step : Step) : Prop :=
  ∀ (c : Cursor) (k : Cursor → Option Cursor) (r : Cursor), c.Within total → step c k = some r →
    c.Reaches total k r

theorem eq_some_of_orElse {α : Type} {x : Option α} {f : Unit → Option α} {a : α}
    (h : x.orElse f = some a) : x = some a ∨ f () = some a := by
  cases x with
  | none => exact Or.inr h
  | some b => exact Or.inl h

variable {total : Nat}

theorem Cursor.Within.keep {c : Cursor} (h : c.Within total) (number : Option Nat) {start : Nat}
    (hstart : start ≤ c.position) : (c.keep number start).Within total := by
  cases number with
  | none => exact h
  | some n =>
    refine ⟨h.position, List.forall_mem_cons.2 ⟨⟨hstart, ?_⟩, h.captures⟩⟩
    have := h.position
    show c.position ≤ total
    omega

theorem Cursor.position_keep (c : Cursor) (number : Option Nat) (start : Nat) :
    (c.keep number start).position = c.position := by
  cases number <;> rfl

/-! ## Parts of a search -/

theorem Cursor.Reaches.stay {c : Cursor} {k : Cursor → Option Cursor} {r : Cursor}
    (hc : c.Within total) (h : k c = some r) : c.Reaches total k r :=
  ⟨c, hc, Nat.le_refl _, h⟩

theorem Step.Advances.andThen {first second : Step} (hfirst : first.Advances total)
    (hsecond : second.Advances total) :
    Step.Advances total fun c k => first c fun c' => second c' k := by
  intro c k r hc h
  obtain ⟨c₁, hc₁, hle₁, h⟩ := hfirst c _ r hc h
  obtain ⟨c₂, hc₂, hle₂, h⟩ := hsecond c₁ k r hc₁ h
  exact ⟨c₂, hc₂, Nat.le_trans hle₁ hle₂, h⟩

theorem Step.Advances.orElse {first second : Step} (hfirst : first.Advances total)
    (hsecond : second.Advances total) :
    Step.Advances total fun c k => (first c k).orElse fun _ => second c k := by
  intro c k r hc h
  rcases eq_some_of_orElse h with h | h
  · exact hfirst c k r hc h
  · exact hsecond c k r hc h

/-- Taking the first way of a step and no other. -/
theorem Step.Advances.commit {step : Step} (hstep : step.Advances total) :
    Step.Advances total fun c k => (step c some).bind k := by
  intro c k r hc h
  obtain ⟨c₁, h₁, h⟩ := Option.bind_eq_some_iff.1 h
  obtain ⟨c₂, hc₂, hle, heq⟩ := hstep c some c₁ hc h₁
  obtain rfl := Option.some.inj heq
  exact ⟨c₂, hc₂, hle, h⟩

theorem takeIf_advances (p : Char → Bool) : Step.Advances total (takeIf p) := by
  intro c k r hc h
  unfold takeIf at h
  split at h
  · cases h
  · next d rest hrest =>
    split at h
    · have hposition := hc.position
      rw [hrest, List.length_cons, Nat.add_comm rest.length, ← Nat.add_assoc] at hposition
      exact ⟨{ c with position := c.position + 1, previous := some d, rest },
        ⟨hposition, hc.captures⟩, Nat.le_succ c.position, h⟩
    · cases h

theorem takeAll_advances (fold : Bool) (ds : List Char) :
    Step.Advances total (takeAll fold ds) := by
  induction ds with
  | nil => exact fun c k r hc h => .stay hc h
  | cons d ds ih => exact (takeIf_advances _).andThen ih

theorem rounds_advances {body : Step} (hbody : body.Advances total) (greed : Greed) :
    ∀ (fuel least : Nat) (most last : Option Nat),
      Step.Advances total (rounds body greed fuel least most last) := by
  intro fuel
  induction fuel with
  | zero =>
    intro least most last c k r _ h
    cases h
  | succ fuel ih =>
    intro least most last c k r hc h
    have hround : ∀ least most last,
        (body c fun c' => rounds body greed fuel least most last c' k) = some r →
        c.Reaches total k r :=
      fun least most last h => hbody.andThen (ih least most last) c k r hc h
    have hagain : (if most = some 0 ∨ last = some c.position then none
        else body c fun c' =>
          rounds body greed fuel 0 (most.map (· - 1)) (some c.position) c' k) = some r →
        c.Reaches total k r := by
      intro h
      split at h
      · cases h
      · exact hround _ _ _ h
    rw [rounds] at h
    split at h
    · exact hround _ _ _ h
    · cases greed with
      | lazy =>
        rcases eq_some_of_orElse h with h | h
        · exact .stay hc h
        · exact hagain h
      | greedy | possessive =>
        rcases eq_some_of_orElse h with h | h
        · exact hagain h
        · exact .stay hc h

theorem Node.run_advances (text : List Char) (node : Node) :
    Step.Advances total (node.run text) := by
  induction node with
  | nothing => exact fun c k r hc h => .stay hc h
  | char d fold => exact takeIf_advances _
  | any lineFeed => exact takeIf_advances _
  | set s fold => exact takeIf_advances _
  | boundary b =>
    intro c k r hc h
    rw [Node.run] at h
    split at h
    · exact .stay hc h
    · cases h
  | reference number fold =>
    intro c k r hc h
    rw [Node.run] at h
    split at h
    · cases h
    · exact takeAll_advances fold _ c k r hc h
  | sequence first second ihfirst ihsecond => exact ihfirst.andThen ihsecond
  | choice first second ihfirst ihsecond => exact ihfirst.orElse ihsecond
  | repetition greed least most body ih =>
    intro c k r hc h
    have hrounds := rounds_advances ih greed (least + c.rest.length + 2) least most none
    cases greed with
    | possessive => exact hrounds.commit c k r hc h
    | greedy | lazy => exact hrounds c k r hc h
  | group number body ih =>
    intro c k r hc h
    obtain ⟨c₁, hc₁, hle, h⟩ := ih c _ r hc h
    refine ⟨_, hc₁.keep number hle, ?_, h⟩
    rwa [Cursor.position_keep]
  | atomic body ih => exact ih.commit

/-! ## Matches -/

/-- The match lies in a text of `total` characters, and so does what each group took. -/
structure Match.Within (total : Nat) (m : Match) : Prop where
  start_le : m.start ≤ m.stop
  stop_le : m.stop ≤ total
  captures : ∀ e ∈ m.captures, e.2.1 ≤ e.2.2 ∧ e.2.2 ≤ total

theorem Node.run_within {text rest : List Char} {tree : Node} {position : Nat}
    {previous : Option Char} {c : Cursor} (hrest : position + rest.length = total)
    (h : tree.run text ⟨position, previous, rest, []⟩ some = some c) :
    Match.Within total ⟨position, c.position, c.captures⟩ := by
  have hstart : Cursor.Within total ⟨position, previous, rest, []⟩ :=
    ⟨hrest, fun e he => (by cases he)⟩
  obtain ⟨c', hc', hle, heq⟩ := tree.run_advances text _ some c hstart h
  obtain rfl := Option.some.inj heq
  refine ⟨hle, ?_, hc'.captures⟩
  have hposition := hc'.position
  show c'.position ≤ total
  omega

theorem Node.searchFrom_within {text rest : List Char} {tree : Node} {position : Nat}
    {previous : Option Char} {m : Match} (hrest : position + rest.length = total)
    (h : tree.searchFrom text position previous rest = some m) : m.Within total := by
  induction rest generalizing position previous with
  | nil =>
    unfold searchFrom at h
    split at h
    · next c hc =>
      cases h
      exact run_within hrest hc
    · cases h
  | cons d rest ih =>
    unfold searchFrom at h
    split at h
    · next c hc =>
      cases h
      exact run_within hrest hc
    · refine ih ?_ h
      rw [List.length_cons] at hrest
      omega

theorem search_within {p : Pattern} {text : String} {m : Match} (h : p.search text = some m) :
    m.Within text.length :=
  Node.searchFrom_within (by rw [Nat.zero_add, String.length_toList]) h

end Pattern

end Patchwork
