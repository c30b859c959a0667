import Patchwork.Proofs.Document.Production
import Patchwork.Proofs.Include.Expansion

/-!
# Located lines under edits

Sections are cut, moved and renumbered by every edit, but the lines of a contiguous document, each
with the place it comes from, change in a simple way: a change of text modifies one entry
(`Contiguous.located_update`), a splice puts the lines of a section between the entries above and
below it (`Contiguous.located_insert`), and a blanking maps over all of them (`located_blanking`).
-/

namespace Patchwork

/-- The source at the place has the text `x` there. -/
def Loader.Gives (load : Loader) (q : Location) (x : String) : Prop :=
  ∃ lines, load q.path = .ok lines ∧ 1 ≤ q.line ∧ lines[(q.line - 1).toNat]? = some x

theorem modify_append_left {α : Type} (f : α → α) {i : Nat} {l₁ : List α} (h : i < l₁.length)
    (l₂ : List α) : (l₁ ++ l₂).modify i f = l₁.modify i f ++ l₂ := by
  induction l₁ generalizing i with
  | nil => cases h
  | cons x l₁ ih =>
    cases i with
    | zero => rfl
    | succ i =>
      rw [List.cons_append, List.modify_succ_cons, ih (Nat.lt_of_succ_lt_succ h),
        List.modify_succ_cons, List.cons_append]

theorem placedFrom_modify (path : String) (k : Int) (xs : List String) (i : Nat)
    (f : String → String) :
    placedFrom path k (xs.modify i f) = (placedFrom path k xs).modify i (Prod.map f id) := by
  induction xs generalizing k i with
  | nil => rw [List.modify_nil, placedFrom, List.modify_nil]
  | cons x xs ih =>
    cases i with
    | zero => rfl
    | succ i => rw [List.modify_succ_cons, placedFrom, placedFrom, List.modify_succ_cons, ih]

theorem placedFrom_map (path : String) (k : Int) (xs : List String) (f : String → String) :
    placedFrom path k (xs.map f) = (placedFrom path k xs).map (Prod.map f id) := by
  induction xs generalizing k with
  | nil => rfl
  | cons x xs ih =>
    rw [List.map_cons, placedFrom, placedFrom, List.map_cons, ih]
    rfl

namespace Section

theorem located_modifyLine (s : Section) (n : Int) (f : String → String) :
    (s.modifyLine n f).located = s.located.modify (s.index n) (Prod.map f id) :=
  placedFrom_modify _ _ _ _ _

theorem located_mapLines (s : Section) (f : String → String) :
    (s.mapLines f).located = s.located.map (Prod.map f id) :=
  placedFrom_map _ _ _ _

/-- A cut takes nothing away and changes no place. -/
theorem located_of_split {s upper lower : Section} {n : Int}
    (h : s.split n = .ok (upper, lower)) :
    s.located = upper.located ++ lower.located ∧ (upper.size : Int) = n - s.range.first := by
  obtain ⟨hn, rfl, rfl⟩ := split_eq_ok.1 h
  have hlen := s.length_lines_eq
  have hindex : (s.index n : Int) = n - s.range.first := by
    unfold index
    omega
  have htake : (s.lines.take (s.index n)).length = s.index n := by
    rw [List.length_take]
    omega
  constructor
  · have hk : s.range.first + s.offset + (s.index n : Int) = n + s.offset := by omega
    show placedFrom s.path (s.range.first + s.offset) s.lines =
      placedFrom s.path (s.range.first + s.offset) (s.lines.take (s.index n)) ++
        placedFrom s.path (n + s.offset) (s.lines.drop (s.index n))
    rw [← hk]
    conv_lhs => rw [← List.take_append_drop (s.index n) s.lines]
    rw [placedFrom_append, htake]
  · show ((s.lines.take (s.index n)).length : Int) = n - s.range.first
    rw [htake, hindex]

theorem located_of_load {load : Loader} {path : String} {s : Section}
    (h : Section.load load path = .ok s) :
    load path = .ok s.lines ∧ s.located = placedFrom path 1 s.lines := by
  obtain ⟨hload, hpath, hfirst, hoffset⟩ := load_eq_ok h
  exact ⟨hload, by rw [located, hpath, hfirst, hoffset, Int.add_zero]⟩

end Section

namespace Document

open Section

variable {d d' : Document} {n : Int}

theorem located_read {load : Loader} {base : Option String} {source : String}
    (h : Document.read load base source = .ok d) :
    d.base = base ∧ ∃ lines, load (sourcePath base source) = .ok lines ∧
      d.located = placedFrom (sourcePath base source) 1 lines := by
  obtain ⟨s, hs, hd⟩ := bind_eq_ok.1 h
  cases hd
  obtain ⟨hload, hlocated⟩ := located_of_load hs
  refine ⟨rfl, s.lines, hload, ?_⟩
  rw [located_eq, List.flatMap_singleton, hlocated]

/-- A section that holds the line `n`, and the entries above it and its own. -/
theorem Contiguous.exists_section (h : d.Contiguous) (hn : ∃ s ∈ d.sections, n ∈ s.range) :
    ∃ before target after, d.sections = before ++ target :: after ∧ n ∈ target.range ∧
      (∀ s ∈ before, n ∉ s.range) ∧
      (n - 1).toNat = (before.flatMap Section.located).length + target.index n := by
  obtain ⟨target, hmem, hn⟩ := hn
  obtain ⟨before, after, hd⟩ := List.append_of_mem hmem
  have ha : Abut 1 (before ++ target :: after) := hd ▸ h
  have hfirst : target.range.first = 1 + totalSize before := (abut_append.1 ha).2.1
  have hle := (LineRange.mem_iff.1 hn).1
  refine ⟨before, target, after, hd, hn, (ha.ordered.not_mem_of_mem hn).1, ?_⟩
  rw [length_flatMap_located]
  unfold index
  omega

theorem Contiguous.located_update (h : d.Contiguous) {f : String → String}
    (hu : d.update n f = .ok d') :
    d'.base = d.base ∧ d'.located = d.located.modify (n - 1).toNat (Prod.map f id) := by
  obtain ⟨before, target, after, hd, hn, hbefore, hindex⟩ := h.exists_section (update_eq_ok hu).1
  rw [update_eq hd hbefore hn] at hu
  cases hu
  refine ⟨rfl, ?_⟩
  have hlt : target.index n < target.located.length := by
    rw [Section.length_located]
    exact index_lt hn
  rw [located_eq, located_eq, hd, hindex, List.flatMap_append, List.flatMap_append,
    List.flatMap_cons, List.flatMap_cons, located_modifyLine, ← modify_append_left _ hlt]
  exact (List.modifyTailIdx_add _ _ _ _).symm

theorem insert_base {s : Section} (hi : d.insert s n = .ok d') : d'.base = d.base := by
  obtain ⟨before, target, after, upper, lower, -, -, -, -, rfl⟩ := insert_eq_ok hi
  rfl

/-- What is spliced in comes between the first `n - 1` entries and the others. -/
theorem Contiguous.located_insert (h : d.Contiguous) {s : Section} (hi : d.insert s n = .ok d') :
    d'.located = d.located.take (n - 1).toNat ++ s.located ++ d.located.drop (n - 1).toNat := by
  obtain ⟨before, target, after, upper, lower, hd, -, -, hc, rfl⟩ := insert_eq_ok hi
  rw [inOrder_of_ordered (Abut.ordered h)] at hd
  have ha : Abut 1 (before ++ target :: after) := hd ▸ h
  have hfirst : target.range.first = 1 + totalSize before := (abut_append.1 ha).2.1
  obtain ⟨htarget, hsize⟩ := located_of_split hc
  have hcount : (n - 1).toNat = (before.flatMap Section.located ++ upper.located).length := by
    rw [List.length_append, length_flatMap_located, Section.length_located]
    omega
  have hold : d.located = (before.flatMap Section.located ++ upper.located) ++
      (lower.located ++ after.flatMap Section.located) := by
    rw [located_eq, hd, List.flatMap_append, List.flatMap_cons, htarget]
    simp only [List.append_assoc]
  rw [hold, hcount, List.take_left, List.drop_left, located_eq]
  simp only [splice, List.flatMap_append, List.flatMap_cons, flatMap_located_map_shift,
    located_shift, List.append_assoc]

theorem located_blanking (h : d.Contiguous) {p : String → Bool} (hb : d.blanking p = .ok d') :
    d'.base = d.base ∧ d'.located = d.located.map (Prod.map (blankIf p) id) := by
  rw [blanking_of_ordered (Abut.ordered h), Except.ok.injEq] at hb
  subst hb
  refine ⟨rfl, ?_⟩
  rw [located_eq, located_eq, List.flatMap_map, List.map_flatMap]
  congr 1
  funext s
  exact s.located_mapLines _

end Document

namespace Scan

theorem located_of_ends {load : Loader} {find : String → Option Directive} {d d' : Document}
    (hd : d.Contiguous) (h : Ends load find d (.ok d')) :
    d'.base = d.base ∧ Expansion load find d.base d.located d'.located := by
  rcases outcome_of_ends hd h with ⟨e, he, -⟩ | ⟨above, out, hr, hu⟩
  · cases he
  · obtain rfl := Except.ok.inj hr
    refine ⟨rfl, ?_⟩
    rw [Document.located_eq, Document.located_eq]
    exact hu.expansion

end Scan

end Patchwork
