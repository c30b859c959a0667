import Mathlib.Data.List.Forall2
import Patchwork.Error

/-!
# Error channels

What an operation may fail with, told together with what it gives when it does not (`Yields`): a
reported error whose span is one of some spans, or one of some faults (`Channel`). Operations that
are put together from others stay within the channel of their parts.
-/

namespace Patchwork

theorem bind_eq_ok {α β : Type} {x : Except Error α} {f : α → Except Error β} {b : β} :
    x >>= f = .ok b ↔ ∃ a, x = .ok a ∧ f a = .ok b := by
  cases x with
  | error e => exact ⟨fun h => (by cases h), fun ⟨_, h, _⟩ => (by cases h)⟩
  | ok a => exact ⟨fun h => ⟨a, rfl, h⟩, fun ⟨_, h, h'⟩ => by cases h; exact h'⟩

theorem bind_eq_error {α β : Type} {x : Except Error α} {f : α → Except Error β} {e : Error} :
    x >>= f = .error e ↔ x = .error e ∨ ∃ a, x = .ok a ∧ f a = .error e := by
  cases x with
  | error e' =>
    constructor
    · intro h
      cases h
      exact Or.inl rfl
    · rintro (h | ⟨_, h, -⟩)
      · cases h
        rfl
      · cases h
  | ok a =>
    constructor
    · intro h
      exact Or.inr ⟨a, rfl, h⟩
    · rintro (h | ⟨_, h, h'⟩)
      · cases h
      · cases h
        exact h'

theorem eq_ok_of_toOption {α : Type} {x : Except Error α} {a : α} (h : x.toOption = some a) :
    x = .ok a := by
  cases x with
  | error e => cases h
  | ok b =>
    cases h
    rfl

theorem faultOfAccess_eq_ok {α : Type} {x : Except AccessFailure α} {a : α} :
    faultOfAccess x = .ok a ↔ x = .ok a := by
  cases x <;> simp [faultOfAccess]

theorem faultOfAccess_eq_error {α : Type} {x : Except AccessFailure α} {e : Error} :
    faultOfAccess x = .error e ↔ ∃ failure, x = .error failure ∧ e = .fault (.access failure) := by
  cases x <;> simp [faultOfAccess, eq_comm]

/-! ## Operations on all members of a list -/

theorem forall₂_of_mapM {α β : Type} {f : α → Except Error β} {xs : List α} {ys : List β}
    (h : xs.mapM f = .ok ys) : List.Forall₂ (fun x y => f x = .ok y) xs ys := by
  induction xs generalizing ys with
  | nil =>
    cases h
    exact .nil
  | cons x xs ih =>
    rw [List.mapM_cons] at h
    obtain ⟨y, hy, h⟩ := bind_eq_ok.1 h
    obtain ⟨rest, hrest, h⟩ := bind_eq_ok.1 h
    obtain rfl := Except.ok.inj h
    exact .cons hy (ih hrest)

theorem mapM_congr {α β : Type} {f g : α → Except Error β} {xs : List α}
    (h : ∀ x ∈ xs, f x = g x) : xs.mapM f = xs.mapM g := by
  induction xs with
  | nil => rfl
  | cons x xs ih =>
    obtain ⟨hx, hxs⟩ := List.forall_mem_cons.1 h
    rw [List.mapM_cons, List.mapM_cons, hx, ih hxs]

/-- Such an operation fails as it does for the first member for which it does. -/
theorem exists_of_mapM_eq_error {α β : Type} {f : α → Except Error β} {xs : List α} {e : Error}
    (h : xs.mapM f = .error e) : ∃ before x after, xs = before ++ x :: after ∧
      (∀ y ∈ before, ∃ b, f y = .ok b) ∧ f x = .error e := by
  induction xs with
  | nil => cases h
  | cons x xs ih =>
    rw [List.mapM_cons] at h
    rcases bind_eq_error.1 h with hx | ⟨b, hb, h⟩
    · exact ⟨[], x, xs, rfl, by simp, hx⟩
    · rcases bind_eq_error.1 h with hxs | ⟨bs, -, h⟩
      · obtain ⟨before, y, after, rfl, hbefore, hy⟩ := ih hxs
        refine ⟨x :: before, y, after, rfl, ?_, hy⟩
        exact List.forall_mem_cons.2 ⟨⟨b, hb⟩, hbefore⟩
      · cases h

/-! ## Errors that may come -/

/-- The reported errors without a span or with one in `P`, and the faults in `F`. -/
inductive Channel (F : Fault → Prop) (P : Span → Prop) : Error → Prop
  | plain {cause : Cause} : Channel F P (.reported cause none)
  | placed {cause : Cause} {span : Span} (h : P span) : Channel F P (.reported cause (some span))
  | fault {f : Fault} (h : F f) : Channel F P (.fault f)

theorem Channel.mono {F F' : Fault → Prop} {P : Span → Prop} {e : Error} (hF : ∀ f, F f → F' f)
    (h : Channel F P e) : Channel F' P e := by
  cases h with
  | plain => exact .plain
  | placed h => exact .placed h
  | fault h => exact .fault (hF _ h)

/-- The operation gives a value in `Q`, or fails with an error in `E`. -/
def Yields {α : Type} (E : Error → Prop) (Q : α → Prop) : Except Error α → Prop
  | .ok a => Q a
  | .error e => E e

namespace Yields

variable {α β : Type} {E : Error → Prop} {P : α → Prop} {Q : β → Prop} {x : Except Error α}

theorem of_forall (h : ∀ e, x = .error e → E e) : Yields E (x = .ok ·) x := by
  cases x with
  | ok a => exact rfl
  | error e => exact h e rfl

theorem and_eq (hx : Yields E P x) : Yields E (fun a => x = .ok a ∧ P a) x := by
  cases x with
  | ok a => exact ⟨rfl, hx⟩
  | error e => exact hx

theorem bind {f : α → Except Error β} (hx : Yields E P x) (hf : ∀ a, P a → Yields E Q (f a)) :
    Yields E Q (x >>= f) := by
  cases x with
  | ok a => exact hf a hx
  | error e => exact hx

theorem mono {E' : Error → Prop} {P' : α → Prop} (hx : Yields E P x) (hE : ∀ e, E e → E' e)
    (hP : ∀ a, P a → P' a) : Yields E' P' x := by
  cases x with
  | ok a => exact hP a hx
  | error e => exact hE e hx

theorem foldlM {f : α → β → Except Error α} {l : List β} {a : α}
    (hstep : ∀ a b, b ∈ l → P a → Yields E P (f a b)) (ha : P a) : Yields E P (l.foldlM f a) := by
  induction l generalizing a with
  | nil => exact ha
  | cons b l ih =>
    rw [List.foldlM_cons]
    refine bind (hstep a b List.mem_cons_self ha) fun a' ha' => ?_
    exact ih (fun a b hb => hstep a b (List.mem_cons_of_mem _ hb)) ha'

theorem mapM {f : α → Except Error β} {l : List α} (h : ∀ a ∈ l, Yields E Q (f a)) :
    Yields E (fun bs => ∀ b ∈ bs, Q b) (l.mapM f) := by
  induction l with
  | nil =>
    intro b hb
    cases hb
  | cons a l ih =>
    obtain ⟨ha, hl⟩ := List.forall_mem_cons.1 h
    rw [List.mapM_cons]
    refine bind ha fun b hb => bind (ih hl) fun bs hbs => ?_
    exact List.forall_mem_cons.2 ⟨hb, hbs⟩

end Yields

end Patchwork
