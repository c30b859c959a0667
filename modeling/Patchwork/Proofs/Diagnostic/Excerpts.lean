import Mathlib.Tactic.Convert
import Patchwork.Diagnostic.Render

/-!
# Known sources

Drawing remembers what it has seen of sources. As long as that is what looking at them gives
(`Excerpts.Faithful`), it makes no difference what is known already: an action has an answer of its
own (`Drawing.Answers`), which it gives from all faithful excerpts, and it leaves faithful excerpts
behind, also if it fails. A diagnostic is answered for by its labels, each with a look of its own
(`Renderer.answers_draw`).
-/

namespace Patchwork

/-- What is known of sources is what looking at them gives. -/
def Excerpts.Faithful (load : Loader) (known : Excerpts) : Prop :=
  ∀ path found, known.lookup path = some found → Renderer.lookAt load path = .ok found

namespace Excerpts.Faithful

variable {load : Loader} {known : Excerpts}

theorem nil (load : Loader) : Faithful load [] := by
  intro path found h
  cases h

theorem cons (h : Faithful load known) {path : String} {found : Option (List String)}
    (hfound : Renderer.lookAt load path = .ok found) : Faithful load ((path, found) :: known) := by
  intro path' found' hlookup
  by_cases hpath : path' = path
  · subst hpath
    rw [List.lookup_cons_self] at hlookup
    rw [hfound, Option.some.inj hlookup]
  · rw [List.lookup_cons, beq_false_of_ne hpath] at hlookup
    exact h path' found' hlookup

end Excerpts.Faithful

namespace Drawing

variable {α β : Type} {load : Loader} {x : Drawing α} {f : α → Drawing β}
  {answer : Except Error α} {known known' : Excerpts}

theorem run_bind_ok {a : α} (h : x.run.run known = (.ok a, known')) :
    (x >>= f).run.run known = (f a).run.run known' := by
  rw [ExceptT.run_bind, StateT.run_bind, h]
  rfl

theorem run_bind_error {e : Error} (h : x.run.run known = (.error e, known')) :
    (x >>= f).run.run known = (.error e, known') := by
  rw [ExceptT.run_bind, StateT.run_bind, h]
  rfl

/-- From all faithful excerpts the action gives `answer`, and leaves faithful ones. -/
def Answers (load : Loader) (x : Drawing α) (answer : Except Error α) : Prop :=
  ∀ known, Excerpts.Faithful load known →
    ∃ known', x.run.run known = (answer, known') ∧ Excerpts.Faithful load known'

namespace Answers

theorem lift (load : Loader) (answer : Except Error α) :
    Answers load (ExceptT.mk (pure answer)) answer := by
  intro known hknown
  exact ⟨known, rfl, hknown⟩

theorem bind (hx : Answers load x answer) {next : α → Except Error β}
    (hf : ∀ a, Answers load (f a) (next a)) : Answers load (x >>= f) (answer >>= next) := by
  intro known hknown
  obtain ⟨known', hrun, hknown'⟩ := hx known hknown
  cases answer with
  | error e => exact ⟨known', run_bind_error hrun, hknown'⟩
  | ok a =>
    obtain ⟨known'', hrun', hknown''⟩ := hf a known' hknown'
    exact ⟨known'', (run_bind_ok hrun).trans hrun', hknown''⟩

end Answers

end Drawing

namespace Renderer

variable (r : Renderer)

theorem answers_linesOf (path : String) :
    Drawing.Answers r.load (r.linesOf path) (lookAt r.load path) := by
  intro known hknown
  have hget : (get : Drawing Excerpts).run.run known = (.ok known, known) := rfl
  unfold linesOf
  rw [Drawing.run_bind_ok hget]
  cases hlookup : known.lookup path with
  | some found =>
    rw [hknown path found hlookup]
    exact ⟨known, rfl, hknown⟩
  | none =>
    cases hfound : lookAt r.load path with
    | ok found => exact ⟨_, rfl, hknown.cons hfound⟩
    | error e => exact ⟨known, rfl, hknown⟩

/-! ## Answers -/

/-- The line that the span starts on, as far as it can be read. -/
def sourceOf (span : Span) : Except Error (Option String) := do
  return (← lookAt r.load span.file).bind fun ls => nth ls span.startLine

def rowsOf (severity : Severity) (label : Label) : Except Error (List String) := do
  r.labelRows severity label (← r.sourceOf label.span)

def answer (d : Diagnostic) : Except Error String := do
  let blocks ← d.labels.mapM (r.rowsOf d.severity)
  return Text.joinLines (r.header d :: blocks.flatten ++ d.notes.map r.noteRow)

theorem answers_startOf (span : Span) :
    Drawing.Answers r.load (r.startOf span) (r.sourceOf span) :=
  (r.answers_linesOf span.file).bind fun _ => .lift r.load (pure _)

theorem answers_allLabelRows (severity : Severity) (labels : List Label) :
    Drawing.Answers r.load (r.allLabelRows severity labels)
      (do return (← labels.mapM (r.rowsOf severity)).flatten) := by
  induction labels with
  | nil => exact .lift r.load (pure [])
  | cons label labels ih =>
    have hrows := fun source => Drawing.Answers.lift r.load (r.labelRows severity label source)
    have hreturn := fun rows : List String => Drawing.Answers.lift r.load (pure rows)
    have h := (r.answers_startOf label.span).bind fun source =>
      (hrows source).bind fun rows => ih.bind fun rest => hreturn (rows ++ rest)
    convert h using 1
    · rfl
    · simp [List.mapM_cons, rowsOf]

/-- **A diagnostic has one answer.** What is known of sources makes no difference to what is drawn,
as long as it is what looking at them gives. -/
theorem answers_draw (d : Diagnostic) : Drawing.Answers r.load (r.draw d) (r.answer d) := by
  have h := (r.answers_allLabelRows d.severity d.labels).bind fun rows =>
    Drawing.Answers.lift r.load
      (pure (Text.joinLines (r.header d :: rows ++ d.notes.map r.noteRow)))
  convert h using 1
  · rfl
  · simp [answer]

theorem drawAlone_eq_answer (d : Diagnostic) : r.drawAlone d = r.answer d := by
  obtain ⟨known, hrun, -⟩ := r.answers_draw d [] (.nil r.load)
  exact congrArg Prod.fst hrun

/-! ## One diagnostic after the other -/

/-- From faithful excerpts each diagnostic has its own answer. One that cannot be drawn leaves behind
what it had seen of sources until then, which is as faithful. -/
theorem run_mapM_draw (ds : List Diagnostic) {known : Excerpts}
    (hknown : Excerpts.Faithful r.load known) :
    ∃ known', (ds.mapM fun d => (r.draw d).run).run known = (ds.map r.answer, known') ∧
      Excerpts.Faithful r.load known' := by
  induction ds generalizing known with
  | nil => exact ⟨known, rfl, hknown⟩
  | cons d ds ih =>
    obtain ⟨known', hdraw, hknown'⟩ := r.answers_draw d known hknown
    obtain ⟨known'', hrest, hknown''⟩ := ih hknown'
    refine ⟨known'', ?_, hknown''⟩
    rw [List.mapM_cons, StateT.run_bind, hdraw]
    change ((ds.mapM fun d => (r.draw d).run) >>= fun rest => pure (r.answer d :: rest)).run known' = _
    rw [StateT.run_bind, hrest]
    rfl

/-- **Nothing that has been drawn before changes an answer.** Drawn one after the other, diagnostics
have the answers that they have alone, failures included, and also after a failure. -/
theorem drawAll_eq_map (ds : List Diagnostic) : r.drawAll ds = ds.map r.drawAlone := by
  obtain ⟨known, hrun, -⟩ := r.run_mapM_draw ds (.nil r.load)
  have halone : r.drawAlone = r.answer := funext r.drawAlone_eq_answer
  rw [halone]
  exact congrArg Prod.fst hrun

end Renderer

end Patchwork
