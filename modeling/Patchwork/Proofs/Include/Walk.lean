import Mathlib.Logic.Relation
import Patchwork.Proofs.Include.Unfolding

/-!
# Walks

Where including fails can be told without sections, by a walk that goes depth first through the lines
of a source and of those it names, with the sources being included kept on a stack. A directive fails
if it names a source on the stack, a source that cannot be loaded or has no lines, or if it stands on
the first or last line of its source (`Walk.refusal`). Once the source it names has been walked, the
walk looks at what is left of the directive, its blank.

A walk has one result (`Walk.unique`). One that comes to the end has come through all that can be
reached from its lines, so none of it is on the stack (`Walk.not_reaches`).
-/

namespace Patchwork

namespace Walk

/-- Why a source of `total` lines cannot be cut at its line `k`, which is the document line `n`. The
blank left of a directive is a first line of its own. -/
def edge (opened : Bool) (total : Nat) (k n : Int) : Option Cause :=
  if opened then some (.splitAtFirst n)
  else if total = 1 then some (.splitOfOneLine (.single n))
  else if k = 1 then some (.splitAtFirst n)
  else if k = total then some (.splitAtLast n)
  else none

/-- Why a directive fails that is met on line `k` of the source at `path`, while the sources on the
stack are being included above it. -/
def refusal (load : Loader) (base : Option String) (stack : List String) (path : String)
    (total : Nat) (opened : Bool) (k n : Int) (dir : Directive) : Option Error :=
  let target := sourcePath base dir.target
  let span := dir.spanAt path k
  if target = path ∨ target ∈ stack then
    some (.reported (.cyclicInclude target path) (some span))
  else
    match load target with
    | .error e => some (e.blaming span)
    | .ok [] => some (.reported (.emptySource target) (some span))
    | .ok (_ :: _) => (edge opened total k n).map fun cause => .reported cause (some span)

end Walk

/-- The walk through lines of the source at `path`, which has `total` lines. They begin at its line `k`
and at the document line `n`; if the first is the blank left of a directive, the walk is `opened`. It
gives the first error it meets, or the document line after all that it has come through. -/
inductive Walk (load : Loader) (find : String → Option Directive) (base : Option String) :
    (stack : List String) → (path : String) → (total : Nat) → (opened : Bool) → (k n : Int) →
      (lines : List String) → (result : Except Error Int) → Prop
  | done {stack : List String} {path : String} {total : Nat} {opened : Bool} {k n : Int} :
      Walk load find base stack path total opened k n [] (.ok n)
  | plain {stack : List String} {path x : String} {total : Nat} {opened : Bool} {k n : Int}
      {rest : List String} {r : Except Error Int} (hx : find x = none)
      (h : Walk load find base stack path total false (k + 1) (n + 1) rest r) :
      Walk load find base stack path total opened k n (x :: rest) r
  | refused {stack : List String} {path x : String} {total : Nat} {opened : Bool} {k n : Int}
      {rest : List String} {dir : Directive} {e : Error} (hx : find x = some dir)
      (hr : Walk.refusal load base stack path total opened k n dir = some e) :
      Walk load find base stack path total opened k n (x :: rest) (.error e)
  | inside {stack : List String} {path x : String} {total : Nat} {opened : Bool} {k n : Int}
      {rest lines : List String} {dir : Directive} {e : Error} (hx : find x = some dir)
      (hr : Walk.refusal load base stack path total opened k n dir = none)
      (hl : load (sourcePath base dir.target) = .ok lines)
      (h : Walk load find base (path :: stack) (sourcePath base dir.target) lines.length false 1 n
        lines (.error e)) :
      Walk load find base stack path total opened k n (x :: rest) (.error e)
  | passed {stack : List String} {path x : String} {total : Nat} {opened : Bool} {k n m : Int}
      {rest lines : List String} {dir : Directive} {r : Except Error Int} (hx : find x = some dir)
      (hr : Walk.refusal load base stack path total opened k n dir = none)
      (hl : load (sourcePath base dir.target) = .ok lines)
      (hin : Walk load find base (path :: stack) (sourcePath base dir.target) lines.length false 1 n
        lines (.ok m))
      (hout : Walk load find base stack path total true k m (Text.blank x :: rest) r) :
      Walk load find base stack path total opened k n (x :: rest) r

/-- One of the lines, or the blank left of one that is a directive, names the source at `target`. -/
def NamedIn (find : String → Option Directive) (base : Option String) (lines : List String)
    (target : String) : Prop :=
  ∃ x ∈ lines, ∃ dir, (find x = some dir ∨ find x ≠ none ∧ find (Text.blank x) = some dir) ∧
    target = sourcePath base dir.target

/-- The source at `path` names the one at `target`. -/
def Names (load : Loader) (find : String → Option Directive) (base : Option String)
    (path target : String) : Prop :=
  ∃ lines, load path = .ok lines ∧ NamedIn find base lines target

namespace Section

variable {load : Loader} {marked : String → Prop}

/-- The lines of the section are lines of its source, but for blanks left of marked ones. -/
def Drawn (load : Loader) (marked : String → Prop) (s : Section) : Prop :=
  ∃ lines, load s.path = .ok lines ∧
    ∀ x ∈ s.lines, x ∈ lines ∨ ∃ y ∈ lines, marked y ∧ x = Text.blank y

namespace Drawn

variable {s upper lower source : Section} {pre post : List String} {x : String} {n : Int}

theorem of_load {path : String} (h : Section.load load path = .ok source) (m : Int) :
    (source.shift m).Drawn load marked := by
  obtain ⟨hload, hpath, -, -⟩ := load_eq_ok h
  exact ⟨source.lines, hpath.symm ▸ hload, fun x hx => Or.inl hx⟩

/-- What is left of a section from a marked line on. -/
theorem remainder (h : s.Drawn load marked) (hc : s.Cut pre x post n upper lower)
    (hx : marked x) (m : Int) : (lower.shift m).Drawn load marked := by
  obtain ⟨lines, hload, hmem⟩ := h
  refine ⟨lines, by rwa [path_shift, hc.path_lower], ?_⟩
  rw [lines_shift, hc.lines_lower]
  refine List.forall_mem_cons.2 ⟨Or.inr ?_, fun y hy => hmem y ?_⟩
  · rcases hmem x (hc.lines ▸ List.mem_append_right _ List.mem_cons_self) with hsrc | ⟨y, hy, hm, rfl⟩
    · exact ⟨x, hsrc, hx, rfl⟩
    · exact ⟨y, hy, hm, Text.blank_blank y⟩
  · rw [hc.lines]
    exact List.mem_append_right _ (List.mem_cons_of_mem _ hy)

theorem names {find : String → Option Directive} (h : s.Drawn load fun y => find y ≠ none)
    (base : Option String) (hx : x ∈ s.lines) {dir : Directive} (hdir : find x = some dir) :
    Names load find base s.path (sourcePath base dir.target) := by
  obtain ⟨lines, hload, hmem⟩ := h
  refine ⟨lines, hload, ?_⟩
  rcases hmem x hx with hsrc | ⟨y, hy, hne, rfl⟩
  · exact ⟨x, hsrc, dir, Or.inl hdir, rfl⟩
  · exact ⟨y, hy, dir, Or.inr ⟨hne, hdir⟩, rfl⟩

end Drawn

end Section

namespace Walk

variable {load : Loader} {find : String → Option Directive} {base : Option String}
  {stack : List String} {path : String} {total : Nat} {opened : Bool} {k n : Int}
  {dir : Directive}

/-! ## Refusals -/

theorem refusal_opened_ne_none (load : Loader) (base : Option String) (stack : List String)
    (path : String) (total : Nat) (k n : Int) (dir : Directive) :
    refusal load base stack path total true k n dir ≠ none := by
  unfold refusal edge
  simp only [if_true, Option.map_some]
  split
  · exact Option.some_ne_none _
  · split <;> exact Option.some_ne_none _

theorem not_mem_of_refusal (h : refusal load base stack path total opened k n dir = none) :
    sourcePath base dir.target ∉ path :: stack := by
  unfold refusal at h
  simp only at h
  split at h
  · cases h
  · next hmem =>
    rwa [List.mem_cons]

/-- An error that refuses a directive has a span, if every error of the loader is a reported one. -/
theorem span_of_refusal {e : Error}
    (hload : ∀ {path : String} {e : Error}, load path = .error e → e.kind? ≠ none)
    (h : refusal load base stack path total opened k n dir = some e) :
    ∃ cause span, e = .reported cause (some span) := by
  unfold refusal at h
  simp only at h
  split at h
  · cases h
    exact ⟨_, _, rfl⟩
  · split at h
    · next e' hl =>
      cases h
      cases e' with
      | fault f => exact absurd rfl (hload hl)
      | reported cause span =>
        cases span with
        | none => exact ⟨_, _, rfl⟩
        | some span => exact ⟨_, _, rfl⟩
    · cases h
      exact ⟨_, _, rfl⟩
    · obtain ⟨cause, -, rfl⟩ := Option.map_eq_some_iff.1 h
      exact ⟨_, _, rfl⟩

/-! ## Walks -/

theorem unique {lines : List String} {r r' : Except Error Int}
    (h : Walk load find base stack path total opened k n lines r)
    (h' : Walk load find base stack path total opened k n lines r') : r = r' := by
  induction h generalizing r' with
  | done => cases h'; rfl
  | plain hx _ ih =>
    cases h' with
    | plain _ h' => exact ih h'
    | refused hx' | inside hx' | passed hx' => rw [hx] at hx'; cases hx'
  | refused hx hr =>
    cases h' with
    | plain hx' => rw [hx] at hx'; cases hx'
    | refused hx' hr' =>
      obtain rfl := Option.some.inj (hx.symm.trans hx')
      rw [Option.some.inj (hr.symm.trans hr')]
    | inside hx' hr' | passed hx' hr' =>
      obtain rfl := Option.some.inj (hx.symm.trans hx')
      rw [hr] at hr'
      cases hr'
  | inside hx hr hl _ ih =>
    cases h' with
    | plain hx' => rw [hx] at hx'; cases hx'
    | refused hx' hr' =>
      obtain rfl := Option.some.inj (hx.symm.trans hx')
      rw [hr] at hr'
      cases hr'
    | inside hx' _ hl' h' =>
      obtain rfl := Option.some.inj (hx.symm.trans hx')
      obtain rfl := Except.ok.inj (hl.symm.trans hl')
      exact ih h'
    | passed hx' _ hl' h' =>
      obtain rfl := Option.some.inj (hx.symm.trans hx')
      obtain rfl := Except.ok.inj (hl.symm.trans hl')
      cases ih h'
  | passed hx hr hl _ _ ihin ihout =>
    cases h' with
    | plain hx' => rw [hx] at hx'; cases hx'
    | refused hx' hr' =>
      obtain rfl := Option.some.inj (hx.symm.trans hx')
      rw [hr] at hr'
      cases hr'
    | inside hx' _ hl' h' =>
      obtain rfl := Option.some.inj (hx.symm.trans hx')
      obtain rfl := Except.ok.inj (hl.symm.trans hl')
      cases ihin h'
    | passed hx' _ hl' hin' hout' =>
      obtain rfl := Option.some.inj (hx.symm.trans hx')
      obtain rfl := Except.ok.inj (hl.symm.trans hl')
      obtain rfl := Except.ok.inj (ihin hin')
      exact ihout hout'

theorem plain_append {pre lines : List String} {r : Except Error Int}
    (hp : ∀ x ∈ pre, find x = none)
    (h : Walk load find base stack path total (opened && pre.isEmpty) (k + pre.length)
      (n + pre.length) lines r) :
    Walk load find base stack path total opened k n (pre ++ lines) r := by
  induction pre generalizing opened k n with
  | nil => simpa using h
  | cons x pre ih =>
    obtain ⟨hx, hp⟩ := List.forall_mem_cons.1 hp
    refine .plain hx (ih hp ?_)
    rw [List.length_cons, List.isEmpty_cons, Bool.and_false] at h
    rw [Bool.false_and, Int.add_assoc, Int.add_assoc, Int.add_comm 1]
    exact h

/-- A walk that is opened on a line and comes to the end has met no directive there. -/
theorem find_of_opened {x : String} {rest : List String} {m : Int}
    (h : Walk load find base stack path total true k n (x :: rest) (.ok m)) : find x = none := by
  cases h with
  | plain hx => exact hx
  | passed _ hr => exact absurd hr (refusal_opened_ne_none _ _ _ _ _ _ _ _)

/-- An error met on a walk has a span, if every error of the loader is a reported one. -/
theorem span_of_error {lines : List String} {e : Error}
    (hload : ∀ {path : String} {e : Error}, load path = .error e → e.kind? ≠ none)
    (h : Walk load find base stack path total opened k n lines (.error e)) :
    ∃ cause span, e = .reported cause (some span) := by
  generalize hr : Except.error e = r at h
  induction h with
  | done => cases hr
  | plain _ _ ih => exact ih hr
  | refused _ href =>
    cases hr
    exact span_of_refusal hload href
  | inside _ _ _ _ ih => exact ih hr
  | passed _ _ _ _ _ _ ihout => exact ihout hr

/-! ## What a walk comes through -/

/-- What can be reached from a source can be reached from what its lines name. -/
theorem not_mem_of_transGen {lines avoid : List String} (hl : load path = .ok lines)
    (h : ∀ target, NamedIn find base lines target → target ∉ avoid ∧
      ∀ x, Relation.TransGen (Names load find base) target x → x ∉ avoid) {x : String}
    (hx : Relation.TransGen (Names load find base) path x) : x ∉ avoid := by
  obtain ⟨target, ⟨lines', hl', hnamed⟩, hrest⟩ := Relation.TransGen.head'_iff.1 hx
  obtain rfl := Except.ok.inj (hl.symm.trans hl')
  obtain ⟨hnot, hreach⟩ := h target hnamed
  rcases Relation.reflTransGen_iff_eq_or_transGen.1 hrest with rfl | hrest
  · exact hnot
  · exact hreach x hrest

/-- **A walk that comes to the end** reaches no source on the stack, nor the one it goes through. -/
theorem not_reaches {lines : List String} {m : Int}
    (h : Walk load find base stack path total opened k n lines (.ok m)) {target : String}
    (ht : NamedIn find base lines target) :
    target ∉ path :: stack ∧
      ∀ x, Relation.TransGen (Names load find base) target x → x ∉ path :: stack := by
  generalize hr : Except.ok m = r at h
  induction h generalizing m target with
  | done =>
    obtain ⟨y, hy, -⟩ := ht
    cases hy
  | plain hx _ ih =>
    obtain ⟨y, hy, dir, hdir, htarget⟩ := ht
    rcases List.mem_cons.1 hy with rfl | hy
    · rcases hdir with hdir | ⟨hne, -⟩
      · rw [hx] at hdir
        cases hdir
      · exact absurd hx hne
    · exact ih ⟨y, hy, dir, hdir, htarget⟩ hr
  | refused => cases hr
  | inside => cases hr
  | @passed stack path x total opened k n m' rest lines dir r hx href hl hin hout ihin ihout =>
    subst hr
    have hblank := hout.find_of_opened
    obtain ⟨y, hy, dir', hdir, rfl⟩ := ht
    rcases List.mem_cons.1 hy with rfl | hy
    · rcases hdir with hdir | ⟨-, hdir⟩
      · obtain rfl := Option.some.inj (hx.symm.trans hdir)
        refine ⟨not_mem_of_refusal href, fun z hz hmem => ?_⟩
        exact not_mem_of_transGen hl (fun t ht => ihin ht rfl) hz (List.mem_cons_of_mem _ hmem)
      · rw [hblank] at hdir
        cases hdir
    · exact ihout ⟨y, List.mem_cons_of_mem _ hy, dir', hdir, rfl⟩ rfl

end Walk

end Patchwork
