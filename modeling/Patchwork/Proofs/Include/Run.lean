import Patchwork.Include
import Patchwork.Proofs.Channel
import Patchwork.Proofs.Document.Contiguous

/-!
# Runs of a scan

`Scan.Ends` says what a scan is over with, if it ever is, for any loader; `Document.including` cuts a
scan off and can only return what a scan ends with. A step changes the document by blanking a line
and splicing a source in at it, or not at all, so what these two edits keep, a whole scan keeps
(`Ends.induction`).
-/

namespace Patchwork

namespace Section

/-- A source is loaded as the section of all its lines, from line 1 on. -/
theorem load_eq_ok {load : Loader} {path : String} {s : Section} (h : Section.load load path = .ok s) :
    load path = .ok s.lines ∧ s.path = path ∧ s.range.first = 1 ∧ s.offset = 0 := by
  obtain ⟨ls, hls, hs⟩ := bind_eq_ok.1 h
  unfold ofSource at hs
  split at hs
  · cases hs
  · cases hs
    exact ⟨hls, rfl, rfl, rfl⟩

theorem exists_cons_of_load {load : Loader} {path : String} {s : Section}
    (h : Section.load load path = .ok s) : ∃ x lines, load path = .ok (x :: lines) := by
  obtain ⟨hload, -⟩ := load_eq_ok h
  have hpos := s.size_pos
  cases hlines : s.lines with
  | nil =>
    rw [size, hlines] at hpos
    cases hpos
  | cons x lines => exact ⟨x, lines, hlines ▸ hload⟩

theorem load_eq_error {load : Loader} {path : String} {e : Error} :
    Section.load load path = .error e ↔
      load path = .error e ∨ load path = .ok [] ∧ e = .reported (.emptySource path) none := by
  rw [Section.load, bind_eq_error]
  refine or_congr_right ⟨?_, ?_⟩
  · rintro ⟨lines, hl, he⟩
    unfold ofSource at he
    split at he
    · next hnil =>
      cases he
      exact ⟨hnil ▸ hl, rfl⟩
    · cases he
  · rintro ⟨hl, rfl⟩
    exact ⟨[], hl, rfl⟩

variable {find : String → Option Directive}

/-! ## The first directive of a section -/

theorem findSome?_numberFrom_eq_none {m : Int} {lines : List String} :
    ((numberFrom m lines).findSome? fun l => (find l.2).map fun dir => (l.1, dir)) = none ↔
      ∀ x ∈ lines, find x = none := by
  induction lines generalizing m with
  | nil => simp [numberFrom]
  | cons x lines ih =>
    rw [numberFrom, List.findSome?_cons, List.forall_mem_cons]
    cases hx : find x with
    | none => simp [ih]
    | some dir => simp

theorem findSome?_numberFrom_eq_some {m n : Int} {dir : Directive} {lines : List String}
    (h : ((numberFrom m lines).findSome? fun l => (find l.2).map fun dir => (l.1, dir)) =
      some (n, dir)) :
    ∃ pre x post, lines = pre ++ x :: post ∧ n = m + pre.length ∧ (∀ y ∈ pre, find y = none) ∧
      find x = some dir := by
  induction lines generalizing m with
  | nil => simp [numberFrom] at h
  | cons x lines ih =>
    rw [numberFrom, List.findSome?_cons] at h
    cases hx : find x with
    | none =>
      simp only [hx, Option.map_none] at h
      obtain ⟨pre, y, post, rfl, rfl, hpre, hy⟩ := ih h
      refine ⟨x :: pre, y, post, rfl, ?_, List.forall_mem_cons.2 ⟨hx, hpre⟩, hy⟩
      rw [List.length_cons]
      omega
    | some dir' =>
      simp only [hx, Option.map_some, Option.some.injEq, Prod.mk.injEq] at h
      obtain ⟨rfl, rfl⟩ := h
      exact ⟨[], x, lines, rfl, by simp, by simp, hx⟩

theorem firstDirective_eq_none_iff {s : Section} :
    s.firstDirective find = none ↔ ∀ x ∈ s.lines, find x = none := by
  rw [firstDirective, numberedLines_eq, findSome?_numberFrom_eq_none]

theorem exists_of_firstDirective {s : Section} {n : Int} {dir : Directive}
    (h : s.firstDirective find = some (n, dir)) :
    ∃ pre x post, s.lines = pre ++ x :: post ∧ n = s.range.first + pre.length ∧
      (∀ y ∈ pre, find y = none) ∧ find x = some dir := by
  rw [firstDirective, numberedLines_eq] at h
  exact findSome?_numberFrom_eq_some h

theorem mem_range_of_firstDirective {s : Section} {n : Int} {dir : Directive}
    (h : s.firstDirective find = some (n, dir)) : n ∈ s.range := by
  obtain ⟨pre, x, post, hlines, rfl, -, -⟩ := exists_of_firstDirective h
  have hlen := s.length_lines_eq
  rw [hlines, List.length_append, List.length_cons] at hlen
  rw [LineRange.mem_iff]
  omega

end Section

namespace Scan

variable {load : Loader} {find : String → Option Directive}

/-- After some number of steps the scan of `d` is over with the result `r`. -/
def Ends (load : Loader) (find : String → Option Directive) (d : Document)
    (r : Except Error Document) : Prop :=
  ∃ rounds, run load find rounds (.start d) = some r

theorem ends_of_including {sources : Sources} {d d' : Document}
    (h : d.including sources find = .ok d') : Ends sources.load find d (.ok d') := by
  refine ⟨roundLimit sources.texts d, ?_⟩
  unfold Document.including at h
  cases hr : run sources.load find (roundLimit sources.texts d) (.start d) with
  | none => simp only [hr, Option.getD_none] at h; cases h
  | some r => simp only [hr, Option.getD_some] at h; rw [h]

/-- **What a step does.** It hands the document over if no section holds the line it has come to,
moves on if that section has no directive, and else blanks the directive, splices its source in and
goes back to the beginning of the section. -/
theorem step_eq_ok {s : Scan} {p : Progress} (h : s.step load find = .ok p) :
    s.document.sectionAt? s.cursor = none ∧ p = .finished s.document ∨
    ∃ host, s.document.sectionAt? s.cursor = some host ∧
      (host.firstDirective find = none ∧ p = .going { s with cursor := host.range.last + 1 } ∨
      ∃ n dir blanked d', host.firstDirective find = some (n, dir) ∧
        sourcePath s.document.base dir.target ∉ chain s.above host.path ∧
        s.document.update n Text.blank = .ok blanked ∧
        blanked.insertSource load dir.target n = .ok d' ∧
        p = .going ⟨d', host.range.first,
          remember s.above (sourcePath s.document.base dir.target) (chain s.above host.path)⟩) := by
  unfold step at h
  split at h
  · next hnone =>
    cases h
    exact Or.inl ⟨hnone, rfl⟩
  · next host hhost =>
    refine Or.inr ⟨host, hhost, ?_⟩
    split at h
    · next hf =>
      cases h
      exact Or.inl ⟨hf, rfl⟩
    · next n dir hf =>
      simp only at h
      split at h
      · cases h
      · next hmem =>
        split at h
        · cases h
        · next d' hd' =>
          cases h
          obtain ⟨blanked, hb, hi⟩ := bind_eq_ok.1 hd'
          exact Or.inr ⟨n, dir, blanked, d', hf, hmem, hb, hi, rfl⟩

/-! ## Chains -/

theorem mem_sourcesAbove_remember {above : List (String × List String)} {path : String}
    {chain : List String} {t x : String} :
    x ∈ sourcesAbove (remember above path chain) t ↔
      t = path ∧ x ∈ chain ∨ x ∈ sourcesAbove above t := by
  unfold remember
  by_cases h : t = path
  · subst h
    simp only [sourcesAbove, List.lookup_cons_self, Option.getD_some, List.mem_append,
      List.mem_filter, decide_not, Bool.not_eq_eq_eq_not, Bool.not_true, decide_eq_false_iff_not,
      true_and]
    by_cases hx : x ∈ chain
    · simp [hx]
    · simp [hx]
  · have hne : (t == path) = false := by simpa using h
    simp only [sourcesAbove, List.lookup_cons, hne, h, false_and, false_or]

theorem mem_chain_iff {above : List (String × List String)} {path x : String} :
    x ∈ chain above path ↔ x = path ∨ x ∈ sourcesAbove above path := by
  rw [chain, List.mem_cons]

/-! ## What a run keeps -/

variable {P : Document → Prop}

theorem run_induction
    (hedit : ∀ d n target blanked d', P d → d.update n Text.blank = .ok blanked →
      blanked.insertSource load target n = .ok d' → P d')
    {rounds : Nat} {s : Scan} {d : Document} (hs : P s.document)
    (h : run load find rounds s = some (.ok d)) : P d := by
  induction rounds generalizing s with
  | zero => cases h
  | succ rounds ih =>
    rw [run] at h
    cases hstep : s.step load find with
    | error e => rw [hstep] at h; cases h
    | ok p =>
      rw [hstep] at h
      rcases step_eq_ok hstep with ⟨-, rfl⟩ | ⟨host, -, ⟨-, rfl⟩ | ⟨n, dir, blanked, d', -, -, hb, hi, rfl⟩⟩
      · cases h
        exact hs
      · exact ih (s := { s with cursor := host.range.last + 1 }) hs h
      · exact ih (hedit _ n dir.target blanked d' hs hb hi) h

/-- What blanking a line and splicing a source in at it keep, a whole scan keeps. -/
theorem Ends.induction
    (hedit : ∀ d n target blanked d', P d → d.update n Text.blank = .ok blanked →
      blanked.insertSource load target n = .ok d' → P d')
    {d d' : Document} (hd : P d) (h : Ends load find d (.ok d')) : P d' := by
  obtain ⟨rounds, h⟩ := h
  exact run_induction hedit hd h

end Scan

/-! ## A few sources -/

namespace Sample

/-- Texts of which some name others, two of them each other. -/
def stored : List (String × StoredSource) :=
  [("main", .text ["a", "@part", "b"]), ("part", .text ["c", "@leaf", "d"]), ("leaf", .text ["e"]),
    ("ring", .text ["f", "@rang", "g"]), ("rang", .text ["h", "@ring", "i"])]

def sources : Sources := .ofStored stored

/-- The directives in them. -/
def directives : List (String × Directive) :=
  [("@part", ⟨"part", 2, 5⟩), ("@leaf", ⟨"leaf", 2, 5⟩), ("@ring", ⟨"ring", 2, 5⟩),
    ("@rang", ⟨"rang", 2, 5⟩)]

/-- Recognises the directives. -/
def find (line : String) : Option Directive := directives.lookup line

/-- The whole of `main`, whose part has a part of its own. -/
def main : Document := ⟨none, [⟨"main", ⟨1, 3, by decide⟩, ["a", "@part", "b"], 0, rfl, by decide⟩]⟩

/-- The whole of `ring`, which comes back to itself. -/
def ring : Document := ⟨none, [⟨"ring", ⟨1, 3, by decide⟩, ["f", "@rang", "g"], 0, rfl, by decide⟩]⟩

/-- What is loaded is one of the sources. -/
theorem mem_paths {path : String} {ls : List String}
    (h : Sources.loadStored stored path = .ok ls) : path ∈ stored.map (·.1) := by
  unfold Sources.loadStored at h
  split at h
  · next hl =>
    obtain ⟨before, after, hstored, -⟩ := List.lookup_eq_some_iff.1 hl
    rw [hstored]
    simp
  · cases h
  · cases h

theorem kind?_of_error {path : String} {e : Error}
    (h : Sources.loadStored stored path = .error e) : e.kind? = some .source := by
  unfold Sources.loadStored at h
  split at h
  · cases h
  · cases h
    rfl
  · cases h
    rfl

/-- All the errors of the loader are reported ones. -/
theorem kind?_ne_none {path : String} {e : Error}
    (h : Sources.loadStored stored path = .error e) : e.kind? ≠ none := by
  rw [kind?_of_error h]
  exact Option.some_ne_none _

end Sample

end Patchwork
