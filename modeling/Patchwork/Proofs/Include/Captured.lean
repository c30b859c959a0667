import Patchwork.Diagnostic.Render
import Patchwork.Proofs.Include.Failure
import Patchwork.Proofs.Source.Null

/-!
# Captured spans

Where including a source fails, the walk through it stands at a directive, and the span of the error
is the stretch of a line that the directive captures. The walk knows which line that is: at every step
its lines are those of the source from line `k` on (`Loader.Reads`), but for the blank of a directive
that it has come back to.
-/

namespace Patchwork

open Renderer (nth)

namespace Loader

/-- From line `k` on the source at `path` has the lines, some of which may have been blanked. -/
def Reads (load : Loader) (path : String) (k : Int) (rest : List String) : Prop :=
  ∃ lines, load path = .ok lines ∧
    ∀ (i : Nat) (x : String), rest[i]? = some x →
      ∃ y, nth lines (k + i) = some y ∧ (x = y ∨ x = Text.blank y)

/-- The span is what a directive captures on a line of a source, or on the blank of one. -/
def Captures (load : Loader) (find : String → Option Directive) (span : Span) : Prop :=
  ∃ lines y x dir, load span.file = .ok lines ∧ nth lines span.startLine = some y ∧
    (x = y ∨ x = Text.blank y) ∧ find x = some dir ∧ span = dir.spanAt span.file span.startLine

namespace Reads

variable {load : Loader} {find : String → Option Directive} {path x : String} {k : Int}
  {rest : List String}

theorem of_load (h : load path = .ok rest) : load.Reads path 1 rest := by
  refine ⟨rest, h, ?_⟩
  intro i x hx
  refine ⟨x, ?_, Or.inl rfl⟩
  have hindex : (1 + (i : Int) - 1).toNat = i := by omega
  rw [nth, if_pos (by omega), hindex, hx]

theorem tail (h : load.Reads path k (x :: rest)) : load.Reads path (k + 1) rest := by
  obtain ⟨lines, hload, hlines⟩ := h
  refine ⟨lines, hload, ?_⟩
  intro i z hz
  obtain ⟨y, hy, hzy⟩ := hlines (i + 1) z hz
  refine ⟨y, ?_, hzy⟩
  rw [← hy]
  congr 1
  omega

theorem blank (h : load.Reads path k (x :: rest)) : load.Reads path k (Text.blank x :: rest) := by
  obtain ⟨lines, hload, hlines⟩ := h
  refine ⟨lines, hload, ?_⟩
  intro i z hz
  cases i with
  | zero =>
    obtain ⟨y, hy, hxy⟩ := hlines 0 x rfl
    obtain rfl : Text.blank x = z := Option.some.inj hz
    refine ⟨y, hy, Or.inr ?_⟩
    rcases hxy with rfl | rfl
    · rfl
    · exact Text.blank_blank y
  | succ i => exact hlines (i + 1) z hz

theorem captures {dir : Directive} (h : load.Reads path k (x :: rest)) (hx : find x = some dir) :
    load.Captures find (dir.spanAt path k) := by
  obtain ⟨lines, hload, hlines⟩ := h
  obtain ⟨y, hy, hxy⟩ := hlines 0 x rfl
  refine ⟨lines, y, x, dir, hload, ?_, hxy, hx, rfl⟩
  rw [← hy]
  simp [Directive.spanAt, Location.span]

end Reads

end Loader

namespace Walk

variable {load : Loader} {find : String → Option Directive} {base : Option String}
  {stack : List String} {path : String} {total : Nat} {opened : Bool} {k n : Int}
  {dir : Directive} {cause : Cause} {span : Span}

/-- A directive is refused with its own span, where the loader does not tell one. -/
theorem spanAt_of_refusal
    (hload : ∀ {path : String} {cause : Cause} {span : Span},
      load path ≠ .error (.reported cause (some span)))
    (h : refusal load base stack path total opened k n dir = some (.reported cause (some span))) :
    span = dir.spanAt path k := by
  unfold refusal at h
  simp only at h
  split at h
  · cases h
    rfl
  · split at h
    · next e he =>
      have h := Option.some.inj h
      unfold Error.blaming at h
      split at h
      · cases h
        rfl
      · subst h
        exact absurd he hload
    · cases h
      rfl
    · obtain ⟨cause', -, h⟩ := Option.map_eq_some_iff.1 h
      cases h
      rfl

/-- A walk through a source fails at what a directive captures. -/
theorem captures_of_error {lines : List String}
    (hload : ∀ {path : String} {cause : Cause} {span : Span},
      load path ≠ .error (.reported cause (some span)))
    (hreads : load.Reads path k lines)
    (h : Walk load find base stack path total opened k n lines
      (.error (.reported cause (some span)))) : load.Captures find span := by
  generalize hr : Except.error (Error.reported cause (some span)) = r at h
  induction h with
  | done => cases hr
  | plain _ _ ih => exact ih hreads.tail hr
  | refused hx href =>
    cases hr
    obtain rfl := spanAt_of_refusal hload href
    exact hreads.captures hx
  | inside _ _ hl _ ih => exact ih (.of_load hl) hr
  | passed _ _ _ _ _ _ ihout => exact ihout hreads.blank hr

end Walk

/-- The span of an error that including reports is what a directive captures. -/
theorem Document.captures_of_including {fs : FileSystem} {base : Option String} {source : String}
    {d : Document} {find : String → Option Directive} {cause : Cause} {span : Span}
    (hd : Document.read fs.load base source = .ok d)
    (h : d.including (.ofFiles fs) find = .error (.reported cause (some span))) :
    fs.load.Captures find span := by
  obtain ⟨hload, hwalk⟩ := Scan.walk_of_ends hd (Scan.ends_including (.ofFiles fs) find d)
  rw [h] at hwalk
  refine hwalk.captures_of_error ?_ (.of_load hload)
  intro path cause' span' hload'
  rcases FileSystem.load_eq_error hload' with ⟨_, he⟩ | ⟨he, -⟩
  · cases he
  · cases he

end Patchwork
