import Patchwork.Proofs.Channel
import Patchwork.Proofs.Diagnostic.Excerpts

/-!
# Diagnostics of errors

A reported error has one label at most. Where the source of that label can be loaded, it takes a
span that is too wide to be counted to keep its diagnostic from being drawn (`exists_drawAlone`).
-/

namespace Patchwork

namespace Renderer

variable {r : Renderer} {span : Span} {lines : List String}

/-- An error is drawn if the rows of its label are. -/
theorem drawAlone_placed (h : r.load span.file = .ok lines) (cause : Cause) :
    r.drawAlone (cause.diagnostic (some span)) =
      (r.labelRows .error ⟨span, ""⟩ (nth lines span.startLine)).map fun rows =>
        Text.joinLines (r.header (cause.diagnostic (some span)) :: (rows ++ []) ++
          cause.notes.map r.noteRow) := by
  have hsource : r.sourceOf span = .ok (nth lines span.startLine) := by
    rw [sourceOf, lookAt, h]
    rfl
  have hrows : r.rowsOf .error ⟨span, ""⟩ =
      r.labelRows .error ⟨span, ""⟩ (nth lines span.startLine) := by
    rw [rowsOf, hsource]
    rfl
  have hblocks : [(⟨span, ""⟩ : Label)].mapM (r.rowsOf .error) =
      (r.labelRows .error ⟨span, ""⟩ (nth lines span.startLine)).map fun rows => [rows] := by
    rw [List.mapM_cons, List.mapM_nil, hrows]
    cases r.labelRows .error ⟨span, ""⟩ (nth lines span.startLine) <;> rfl
  rw [drawAlone_eq_answer]
  show ([(⟨span, ""⟩ : Label)].mapM (r.rowsOf .error) >>= _) = _
  rw [hblocks]
  cases r.labelRows .error ⟨span, ""⟩ (nth lines span.startLine) <;> rfl

theorem exists_repeated (c : Char) {n : Int} (hmin : -1 ≤ n) (hmax : n ≤ LineRange.sizeLimit) :
    ∃ text, repeated c n = .ok text := by
  refine ⟨_, if_pos ⟨?_, hmax⟩⟩
  have : (0 : Int) ≤ LineRange.sizeLimit := by decide
  omega

/-- Carets can be drawn below all columns of a line that can be counted. -/
theorem exists_excerptRows (r : Renderer) (severity : Severity) (source : String)
    (hstart : 0 ≤ span.startCol) (hmin : span.startCol - 1 ≤ LineRange.sizeLimit)
    (hmax : span.endCol - span.startCol + 1 ≤ LineRange.sizeLimit) :
    ∃ rows, r.excerptRows severity span source = .ok rows := by
  have hone : (1 : Int) ≤ LineRange.sizeLimit := by decide
  obtain ⟨padding, hpadding⟩ := exists_repeated ' ' (by omega) hmin
  obtain ⟨carets, hcarets⟩ := exists_repeated '^'
    (n := max 1 (span.endCol - span.startCol + 1)) (by omega) (by omega)
  unfold excerptRows caretRow
  rw [hpadding, hcarets]
  split
  · exact ⟨_, rfl⟩
  · exact ⟨_, rfl⟩

/-- An error with a span on a line that can be counted is drawn. -/
theorem exists_drawAlone (h : r.load span.file = .ok lines) (cause : Cause)
    (hstart : 0 ≤ span.startCol) (hmin : span.startCol - 1 ≤ LineRange.sizeLimit)
    (hmax : span.endCol - span.startCol + 1 ≤ LineRange.sizeLimit) :
    ∃ text, r.drawAlone (cause.diagnostic (some span)) = .ok text := by
  rw [drawAlone_placed h]
  unfold labelRows
  cases nth lines span.startLine with
  | none => exact ⟨_, rfl⟩
  | some source =>
    obtain ⟨rows, hrows⟩ := r.exists_excerptRows .error source hstart hmin hmax
    simp only [hrows]
    exact ⟨_, rfl⟩

theorem eq_uncountable_of_repeated {c : Char} {n : Int} {e : Error} (h : repeated c n = .error e) :
    e = .fault .uncountable := by
  unfold repeated at h
  split at h
  · cases h
  · cases h
    rfl

theorem eq_uncountable_of_excerptRows {severity : Severity} {source : String} {e : Error}
    (h : r.excerptRows severity span source = .error e) : e = .fault .uncountable := by
  unfold excerptRows at h
  split at h
  · rcases bind_eq_error.1 h with h | ⟨_, -, h⟩
    · rcases bind_eq_error.1 h with h | ⟨_, -, h⟩
      · exact eq_uncountable_of_repeated h
      · rcases bind_eq_error.1 h with h | ⟨_, -, h⟩
        · exact eq_uncountable_of_repeated h
        · cases h
    · cases h
  · cases h

/-- Nothing else keeps an error from being drawn. -/
theorem eq_uncountable_of_drawAlone (h : r.load span.file = .ok lines) {cause : Cause} {e : Error}
    (hdraw : r.drawAlone (cause.diagnostic (some span)) = .error e) : e = .fault .uncountable := by
  rw [drawAlone_placed h] at hdraw
  cases hrows : r.labelRows .error ⟨span, ""⟩ (nth lines span.startLine) with
  | ok rows =>
    rw [hrows] at hdraw
    cases hdraw
  | error e' =>
    rw [hrows] at hdraw
    obtain rfl : e' = e := Except.error.inj hdraw
    unfold labelRows at hrows
    cases hsource : nth lines span.startLine with
    | none =>
      rw [hsource] at hrows
      cases hrows
    | some source =>
      rw [hsource] at hrows
      rcases bind_eq_error.1 hrows with hrows | ⟨_, -, hrows⟩
      · exact eq_uncountable_of_excerptRows hrows
      · cases hrows

end Renderer

end Patchwork
