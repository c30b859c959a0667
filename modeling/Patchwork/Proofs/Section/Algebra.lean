import Mathlib.Data.List.Basic
import Patchwork.Section.Split
import Patchwork.Location

/-!
# Sections as numbered and placed lines

A section is read in two ways: as lines with consecutive document line numbers (`numberFrom`) and as
lines with consecutive places in one source (`placedFrom`). Moving a section changes the first
reading only (`located_shift`), cutting it cuts both. `split_eq_ok` says when a section can be cut
and what the two parts are.
-/

namespace Patchwork

attribute [ext] LineRange Section

namespace LineRange

@[simp] theorem first_shift (r : LineRange) (n : Int) : (r.shift n).first = r.first + n := rfl

@[simp] theorem last_shift (r : LineRange) (n : Int) : (r.shift n).last = r.last + n := rfl

@[simp] theorem size_shift (r : LineRange) (n : Int) : (r.shift n).size = r.size := by
  simp only [size, first_shift, last_shift]
  congr 1
  omega

theorem first_mem (r : LineRange) : r.first ∈ r := mem_iff.2 ⟨Int.le_refl _, r.first_le_last⟩

theorem last_mem (r : LineRange) : r.last ∈ r := mem_iff.2 ⟨r.first_le_last, Int.le_refl _⟩

end LineRange

/-- The lines numbered from `n` on. -/
def numberFrom (n : Int) : List String → List (Int × String)
  | [] => []
  | x :: rest => (n, x) :: numberFrom (n + 1) rest

/-- The lines of the source at `path`, the first of which is its line `k`, with their places. -/
def placedFrom (path : String) (k : Int) : List String → List (String × Location)
  | [] => []
  | x :: rest => (x, ⟨path, k⟩) :: placedFrom path (k + 1) rest

theorem placedFrom_append (path : String) (k : Int) (xs ys : List String) :
    placedFrom path k (xs ++ ys) = placedFrom path k xs ++ placedFrom path (k + xs.length) ys := by
  induction xs generalizing k with
  | nil => simp [placedFrom]
  | cons x xs ih =>
    simp only [List.cons_append, placedFrom, ih, List.length_cons]
    congr 3
    omega

@[simp] theorem length_placedFrom (path : String) (k : Int) (xs : List String) :
    (placedFrom path k xs).length = xs.length := by
  induction xs generalizing k with
  | nil => rfl
  | cons x xs ih => simp [placedFrom, ih]

@[simp] theorem map_fst_placedFrom (path : String) (k : Int) (xs : List String) :
    (placedFrom path k xs).map (·.1) = xs := by
  induction xs generalizing k with
  | nil => rfl
  | cons x xs ih => simp [placedFrom, ih]

theorem getElem?_placedFrom (path : String) (k : Int) (xs : List String) (i : Nat) :
    (placedFrom path k xs)[i]? = xs[i]?.map fun x => (x, ⟨path, k + i⟩) := by
  induction xs generalizing k i with
  | nil => simp [placedFrom]
  | cons x xs ih =>
    cases i with
    | zero => simp [placedFrom]
    | succ i =>
      simp only [placedFrom, List.getElem?_cons_succ, ih]
      rw [show k + 1 + (i : Int) = k + ((i + 1 : Nat) : Int) by omega]

namespace Section

/-! ## The two readings -/

theorem length_lines_eq (s : Section) : (s.lines.length : Int) = s.range.last - s.range.first + 1 := by
  rw [s.length_lines, s.range.size_eq]

theorem last_eq (s : Section) : s.range.last = s.range.first + s.size - 1 := by
  have := s.length_lines_eq
  unfold size
  omega

theorem zip_range_map (n : Int) (lines : List String) :
    ((List.range lines.length).map fun (i : Nat) => n + i).zip lines = numberFrom n lines := by
  induction lines generalizing n with
  | nil => rfl
  | cons x rest ih =>
    rw [List.length_cons, List.range_succ_eq_map, List.map_cons, List.map_map, List.zip_cons_cons,
      numberFrom, ← ih (n + 1)]
    congr 2
    · simp
    · refine List.map_congr_left fun i _ => ?_
      simp only [Function.comp_apply]
      push_cast
      omega

theorem numberedLines_eq (s : Section) : s.numberedLines = numberFrom s.range.first s.lines := by
  rw [numberedLines, LineRange.toList, ← s.length_lines, zip_range_map]

/-- The lines of a section, each with the place it comes from. -/
def located (s : Section) : List (String × Location) :=
  placedFrom s.path (s.range.first + s.offset) s.lines

theorem map_numberFrom (path : String) (k n : Int) (lines : List String) :
    (numberFrom n lines).map (fun l => (l.2, (⟨path, l.1 + k⟩ : Location))) =
      placedFrom path (n + k) lines := by
  induction lines generalizing n with
  | nil => rfl
  | cons x rest ih =>
    simp only [numberFrom, placedFrom, List.map_cons, ih]
    congr 2
    omega

theorem located_eq (s : Section) :
    s.numberedLines.map (fun l => (l.2, (⟨s.path, l.1 + s.offset⟩ : Location))) = s.located := by
  rw [numberedLines_eq, map_numberFrom, located]

@[simp] theorem length_located (s : Section) : s.located.length = s.size := by
  simp [located, size]

/-! ## Moving -/

@[simp] theorem path_shift (s : Section) (n : Int) : (s.shift n).path = s.path := rfl

@[simp] theorem range_shift (s : Section) (n : Int) : (s.shift n).range = s.range.shift n := rfl

@[simp] theorem lines_shift (s : Section) (n : Int) : (s.shift n).lines = s.lines := rfl

@[simp] theorem offset_shift (s : Section) (n : Int) : (s.shift n).offset = s.offset - n := rfl

@[simp] theorem size_shift (s : Section) (n : Int) : (s.shift n).size = s.size := rfl

@[simp] theorem shift_zero (s : Section) : s.shift 0 = s := by
  ext <;> simp

@[simp] theorem shift_shift (s : Section) (a b : Int) : (s.shift a).shift b = s.shift (a + b) := by
  ext1
  · rfl
  · ext <;> simp [Int.add_assoc]
  · rfl
  · simp only [offset_shift]
    omega

@[simp] theorem located_shift (s : Section) (n : Int) : (s.shift n).located = s.located := by
  simp only [located, path_shift, range_shift, LineRange.first_shift, offset_shift, lines_shift]
  congr 1
  omega

/-! ## Changing lines -/

/-- The section with all its texts changed. -/
def mapLines (s : Section) (f : String → String) : Section :=
  { s with lines := s.lines.map f, length_lines := by simp [s.length_lines] }

@[simp] theorem range_mapLines (s : Section) (f : String → String) :
    (s.mapLines f).range = s.range := rfl

@[simp] theorem path_modifyLine (s : Section) (n : Int) (f : String → String) :
    (s.modifyLine n f).path = s.path := rfl

@[simp] theorem range_modifyLine (s : Section) (n : Int) (f : String → String) :
    (s.modifyLine n f).range = s.range := rfl

@[simp] theorem offset_modifyLine (s : Section) (n : Int) (f : String → String) :
    (s.modifyLine n f).offset = s.offset := rfl

@[simp] theorem size_modifyLine (s : Section) (n : Int) (f : String → String) :
    (s.modifyLine n f).size = s.size := by
  simp [size, modifyLine]

/-- The line after `pre` is the one that is changed at its number. -/
theorem lines_modifyLine {s : Section} {pre post : List String} {x : String} {n : Int}
    (h : s.lines = pre ++ x :: post) (hn : n = s.range.first + pre.length) (f : String → String) :
    (s.modifyLine n f).lines = pre ++ f x :: post := by
  have hindex : s.index n = pre.length := by
    unfold index
    omega
  show s.lines.modify (s.index n) f = _
  rw [hindex, h, List.modify_eq_set_getElem?]
  simp

/-- Changing the lines after `pre` that satisfy `p` one by one, each at its number, changes them all
and nothing else. -/
theorem exists_foldlM_update (p : String → Bool) (f : String → String) {s : Section}
    {pre rest : List String} {n : Int} (h : s.lines = pre ++ rest)
    (hn : n = s.range.first + pre.length) :
    ∃ t, ((numberFrom n rest).filter fun l => p l.2).foldlM (fun t l => t.update l.1 f) s = .ok t ∧
      t.path = s.path ∧ t.range = s.range ∧ t.offset = s.offset ∧
      t.lines = pre ++ rest.map fun x => if p x then f x else x := by
  induction rest generalizing s pre n with
  | nil => exact ⟨s, rfl, rfl, rfl, rfl, h⟩
  | cons x rest ih =>
    have hnext : ∀ y : String, n + 1 = s.range.first + ((pre ++ [y]).length : Nat) := by
      intro y
      rw [List.length_append, List.length_singleton]
      omega
    rw [numberFrom, List.filter_cons, List.map_cons]
    by_cases hx : p x = true
    · have hmem : n ∈ s.range := by
        have hlength := s.length_lines_eq
        rw [h, List.length_append, List.length_cons] at hlength
        exact LineRange.mem_iff.2 (by omega)
      have hlines : (s.modifyLine n f).lines = (pre ++ [f x]) ++ rest := by
        rw [lines_modifyLine h hn, List.append_assoc, List.singleton_append]
      obtain ⟨t, ht, hpath, hrange, hoffset, hrest⟩ := ih hlines (hnext (f x))
      refine ⟨t, ?_, hpath, hrange, hoffset, ?_⟩
      · rw [if_pos hx, List.foldlM_cons, update, if_pos hmem]
        exact ht
      · rw [hrest, if_pos hx, List.append_assoc, List.singleton_append]
    · have hlines : s.lines = (pre ++ [x]) ++ rest := by
        rw [h, List.append_assoc, List.singleton_append]
      obtain ⟨t, ht, hpath, hrange, hoffset, hrest⟩ := ih hlines (hnext x)
      refine ⟨t, ?_, hpath, hrange, hoffset, ?_⟩
      · rw [if_neg hx]
        exact ht
      · rw [hrest, if_neg hx, List.append_assoc, List.singleton_append]

/-- All lines that satisfy `p` are changed, although they are collected before the first of them
is. -/
theorem foldlM_update_allMatching (p : String → Bool) (f : String → String) (s : Section) :
    (s.allMatching p).foldlM (fun t l => t.update l.1 f) s =
      .ok (s.mapLines fun x => if p x then f x else x) := by
  have hfirst : s.range.first = s.range.first + (([] : List String).length : Nat) := by simp
  obtain ⟨t, ht, hpath, hrange, hoffset, hlines⟩ :=
    exists_foldlM_update p f (List.nil_append _).symm hfirst
  rw [allMatching, numberedLines_eq, ht]
  congr 1
  ext1
  · exact hpath
  · exact hrange
  · exact hlines
  · exact hoffset

/-! ## Cutting -/

theorem split_of_inner {s : Section} {n : Int} (h : s.range.first < n ∧ n < s.range.last) :
    s.split n = .ok (s.before n ⟨h.1, Int.le_of_lt h.2⟩, s.since n ⟨h.1, Int.le_of_lt h.2⟩) := by
  have hsplit : s.isSplittable = true := by
    have := s.range.size_eq
    simp only [isSplittable, decide_eq_true_eq]
    omega
  have hmem : n ∈ s.range := LineRange.mem_iff.2 (by omega)
  unfold split
  rw [if_neg (by simp [hsplit]), dif_pos hmem, dif_neg (by omega), if_neg (by omega)]

/-- A section is cut before an inner line, and nowhere else. -/
theorem split_eq_ok {s u l : Section} {n : Int} : s.split n = .ok (u, l) ↔
    ∃ h : s.range.first < n ∧ n < s.range.last,
      u = s.before n ⟨h.1, Int.le_of_lt h.2⟩ ∧ l = s.since n ⟨h.1, Int.le_of_lt h.2⟩ := by
  constructor
  · intro h
    have hin : s.range.first < n ∧ n < s.range.last := by
      unfold split at h
      split at h
      · cases h
      · split at h
        · next hm =>
          have := LineRange.mem_iff.1 hm
          split at h
          · cases h
          · split at h
            · cases h
            · omega
        · cases h
    rw [split_of_inner hin, Except.ok.injEq, Prod.mk.injEq] at h
    exact ⟨hin, h.1.symm, h.2.symm⟩
  · rintro ⟨h, rfl, rfl⟩
    exact split_of_inner h

theorem cause_of_split {s : Section} {n : Int} {e : Error} (h : s.split n = .error e) :
    ∃ cause, cause.kind = .range ∧ e = .reported cause none := by
  unfold split at h
  split at h
  · cases h
    exact ⟨_, rfl, rfl⟩
  · split at h
    · split at h
      · cases h
        exact ⟨_, rfl, rfl⟩
      · split at h
        · cases h
          exact ⟨_, rfl, rfl⟩
        · cases h
    · cases h
      exact ⟨_, rfl, rfl⟩

/-- Where the cut of a section of several lines fails, the line is its first or its last. -/
theorem split_of_edge {s : Section} {n : Int} (hm : n ∈ s.range) :
    (s.range.first = s.range.last → s.split n = failFor (.splitOfOneLine s.range)) ∧
    (s.range.first < s.range.last → n = s.range.first → s.split n = failFor (.splitAtFirst n)) ∧
    (s.range.first < s.range.last → n = s.range.last → s.split n = failFor (.splitAtLast n)) := by
  have hsize := s.range.size_eq
  refine ⟨fun h => ?_, fun h hn => ?_, fun h hn => ?_⟩
  · unfold split
    rw [if_pos]
    simp only [isSplittable, decide_eq_true_eq]
    omega
  · unfold split
    rw [if_neg (by simp only [isSplittable, decide_eq_true_eq]; omega), dif_pos hm, dif_pos hn]
  · unfold split
    rw [if_neg (by simp only [isSplittable, decide_eq_true_eq]; omega), dif_pos hm,
      dif_neg (by omega), if_pos hn]

end Section

end Patchwork
