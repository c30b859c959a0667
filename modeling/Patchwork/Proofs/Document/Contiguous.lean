import Patchwork.Proofs.Document.Splice
import Patchwork.Proofs.Section.Entry

/-!
# Contiguous documents

A document is `Contiguous` when its sections abut from line 1 on. Then line numbers and stored order
agree: the lines of the document are those numbered from 1 to its size, and the place that `resolve`
gives for the line `n` stands at index `n - 1` of `located` (`Contiguous.lists_located`). Both edits
keep a document contiguous (`Contiguous.update`, `Contiguous.insert`).
-/

namespace Patchwork

namespace Section

theorem length_flatMap_located (l : List Section) : (l.flatMap located).length = totalSize l := by
  induction l with
  | nil => rfl
  | cons s l ih => rw [List.flatMap_cons, List.length_append, ih, length_located, totalSize_cons]

theorem length_flatMap_lines (l : List Section) : (l.flatMap (·.lines)).length = totalSize l := by
  induction l with
  | nil => rfl
  | cons s l ih => rw [List.flatMap_cons, List.length_append, ih, totalSize_cons, size]

/-- Abutting sections hold their lines in the order of the line numbers. -/
theorem Abut.getElem?_located {m : Int} {before after : List Section} {s : Section} {n : Int}
    (h : Abut m (before ++ s :: after)) (hn : n ∈ s.range) :
    ((before ++ s :: after).flatMap located)[(n - m).toNat]? =
      s.located[(n - s.range.first).toNat]? := by
  have hs : s.range.first = m + totalSize before := (abut_append.1 h).2.1
  obtain ⟨h₁, h₂⟩ := LineRange.mem_iff.1 hn
  have hlast := s.last_eq
  rw [List.flatMap_append, List.flatMap_cons, List.getElem?_append_right, length_flatMap_located,
    List.getElem?_append_left]
  · congr 1
    omega
  · rw [length_located]
    omega
  · rw [length_flatMap_located]
    omega

end Section

namespace Document

open Section

variable {d : Document}

/-- The sections abut from line 1 on. -/
def Contiguous (d : Document) : Prop := Abut 1 d.sections

/-- The entries are the lines of the document in order, each with the place it resolves to. -/
def Lists (d : Document) (entries : List (String × Location)) : Prop :=
  entries.map (·.1) = d.lines ∧
    ∀ (n : Int) (q : Location), d.resolve n = .ok q ↔
      ∃ i : Nat, n = i + 1 ∧ (entries.map (·.2))[i]? = some q

theorem located_eq (d : Document) : d.located = d.sections.flatMap Section.located := by
  rw [located]
  congr 1
  funext s
  exact s.located_eq

theorem length_located (d : Document) : d.located.length = d.size := by
  rw [located_eq, length_flatMap_located, size]

theorem length_lines (d : Document) : d.lines.length = d.size := length_flatMap_lines _

theorem map_fst_located (d : Document) : d.located.map (·.1) = d.lines := by
  rw [located_eq, List.map_flatMap, lines]
  congr 1
  funext s
  exact map_fst_placedFrom _ _ _

/-! ## Looking lines up -/

theorem Contiguous.exists_mem_iff (h : d.Contiguous) (n : Int) :
    (∃ s ∈ d.sections, n ∈ s.range) ↔ 1 ≤ n ∧ n ≤ d.size := by
  rw [Abut.exists_mem_iff h, size]
  omega

/-- The first section that has a line answers for it. -/
theorem lookup_of_sections {before after : List Section} {s : Section} {n : Int}
    (hd : d.sections = before ++ s :: after) (hb : ∀ t ∈ before, n ∉ t.range) (hn : n ∈ s.range) :
    ∃ x, s.lines[s.index n]? = some x ∧ d.line n = .ok x ∧
      d.resolve n = .ok ⟨s.path, n + s.offset⟩ := by
  have howner := owner_eq hd hb hn
  obtain ⟨x, hx, hline⟩ := s.line_of_mem hn
  refine ⟨x, hx, ?_, ?_⟩
  · rw [line, howner]
    exact hline
  · rw [resolve, howner]
    exact s.resolve_of_mem hn

theorem lookup_of_forall_not_mem {n : Int} (h : ∀ s ∈ d.sections, n ∉ s.range) :
    d.line n = failFor (.lineOutsideDocument n d.lastLine) ∧
      d.resolve n = failFor (.lineOutsideDocument n d.lastLine) := by
  rw [line, resolve, owner_outside h]
  exact ⟨rfl, rfl⟩

/-- A line of the document has the text and the place at its index among the located lines. -/
theorem Contiguous.lookup (h : d.Contiguous) {n : Int} (hn : 1 ≤ n ∧ n ≤ d.size) :
    ∃ x q, d.line n = .ok x ∧ d.resolve n = .ok q ∧ d.located[(n - 1).toNat]? = some (x, q) := by
  obtain ⟨s, hs, hmem⟩ := (h.exists_mem_iff n).2 hn
  obtain ⟨before, after, hd⟩ := List.append_of_mem hs
  have ha : Abut 1 (before ++ s :: after) := hd ▸ h
  obtain ⟨x, hx, hline, hresolve⟩ := lookup_of_sections hd (ha.ordered.not_mem_of_mem hmem).1 hmem
  have hx : s.lines[(n - s.range.first).toNat]? = some x := hx
  refine ⟨x, ⟨s.path, n + s.offset⟩, hline, hresolve, ?_⟩
  have hk : s.range.first + s.offset + ((n - s.range.first).toNat : Int) = n + s.offset := by
    have := (LineRange.mem_iff.1 hmem).1
    omega
  rw [d.located_eq, hd, ha.getElem?_located hmem, Section.located, getElem?_placedFrom, hx, hk]
  rfl

theorem Contiguous.lookup_outside (h : d.Contiguous) {n : Int} (hn : ¬(1 ≤ n ∧ n ≤ d.size)) :
    d.line n = failFor (.lineOutsideDocument n d.lastLine) ∧
      d.resolve n = failFor (.lineOutsideDocument n d.lastLine) :=
  lookup_of_forall_not_mem fun s hs hmem => hn ((h.exists_mem_iff n).1 ⟨s, hs, hmem⟩)

theorem Contiguous.lists_located (h : d.Contiguous) : d.Lists d.located := by
  refine ⟨d.map_fst_located, fun n q => ⟨fun hq => ?_, ?_⟩⟩
  · by_cases hn : 1 ≤ n ∧ n ≤ d.size
    · obtain ⟨x, q', -, hq', hloc⟩ := h.lookup hn
      obtain rfl : q' = q := Except.ok.inj (hq'.symm.trans hq)
      exact ⟨(n - 1).toNat, by omega, by rw [List.getElem?_map, hloc]; rfl⟩
    · rw [(h.lookup_outside hn).2] at hq
      cases hq
  · rintro ⟨i, rfl, hi⟩
    have hlt : i < d.size := by
      rw [← d.length_located, ← List.length_map (f := (·.2))]
      exact (List.getElem?_eq_some_iff.1 hi).1
    obtain ⟨x, q', -, hq', hloc⟩ := h.lookup (n := i + 1) (by omega)
    rw [show ((i : Int) + 1 - 1).toNat = i by omega] at hloc
    rw [List.getElem?_map, hloc] at hi
    obtain rfl : q' = q := Option.some.inj hi
    exact hq'

theorem Contiguous.lastLine_eq (h : d.Contiguous) : d.lastLine = d.size := by
  unfold lastLine
  cases hl : d.sections.getLast? with
  | none =>
    rw [List.getLast?_eq_none_iff] at hl
    simp [size, hl]
  | some s =>
    obtain ⟨before, hd⟩ := List.getLast?_eq_some_iff.1 hl
    have ha : Abut 1 (before ++ [s]) := hd ▸ h
    have hs : s.range.first = 1 + totalSize before := (abut_append.1 ha).2.1
    have hlast := s.last_eq
    simp only [size, hd, totalSize_append, totalSize_cons, totalSize_nil]
    omega

/-! ## Edits -/

/-- Changing the text of a line changes nothing of the sections that does not show it. -/
theorem map_modifyLine {α : Type} {g : Section → α} (n : Int) (f : String → String)
    (hg : ∀ s : Section, g (s.modifyLine n f) = g s) (l : List Section) :
    (modifyLine n f l).map g = l.map g := by
  induction l with
  | nil => rfl
  | cons s l ih =>
    rw [modifyLine]
    split
    · rw [List.map_cons, List.map_cons, hg]
    · rw [List.map_cons, List.map_cons, ih]

theorem map_range_modifyLine (n : Int) (f : String → String) (l : List Section) :
    (modifyLine n f l).map (·.range) = l.map (·.range) :=
  map_modifyLine n f (fun _ => rfl) l

/-- What holds of all lines, and with a line also of what it is changed to, holds afterwards. -/
theorem forall_mem_modifyLine {P : String → Prop} {n : Int} {f : String → String}
    {l : List Section} (h : ∀ s ∈ l, ∀ x ∈ s.lines, P x) (hf : ∀ x, P x → P (f x)) :
    ∀ s ∈ modifyLine n f l, ∀ x ∈ s.lines, P x := by
  induction l with
  | nil => exact h
  | cons s l ih =>
    obtain ⟨hs, hl⟩ := List.forall_mem_cons.1 h
    rw [modifyLine]
    split
    · refine List.forall_mem_cons.2 ⟨fun x hx => ?_, hl⟩
      have hx : x ∈ s.lines.modify (s.index n) f := hx
      obtain ⟨i, hi, rfl⟩ := List.mem_iff_getElem.1 hx
      rw [List.getElem_modify]
      split
      · exact hf _ (hs _ (List.getElem_mem _))
      · exact hs _ (List.getElem_mem _)
    · exact List.forall_mem_cons.2 ⟨hs, ih hl⟩

theorem Contiguous.modifyLine (h : d.Contiguous) (n : Int) (f : String → String) :
    Contiguous { d with sections := modifyLine n f d.sections } :=
  Abut.congr h (map_range_modifyLine n f d.sections)

theorem update_eq_ok {d' : Document} {n : Int} {f : String → String} (h : d.update n f = .ok d') :
    (∃ s ∈ d.sections, n ∈ s.range) ∧
      d' = { d with sections := Document.modifyLine n f d.sections } := by
  cases hs : d.sectionAt? n with
  | none =>
    rw [update_outside (sectionAt?_eq_none_iff.1 hs)] at h
    cases h
  | some s =>
    rw [update_of_sectionAt? hs, Except.ok.injEq] at h
    exact ⟨⟨s, mem_of_sectionAt? hs⟩, h.symm⟩

theorem Contiguous.update (h : d.Contiguous) {d' : Document} {n : Int} {f : String → String}
    (hu : d.update n f = .ok d') : d'.Contiguous := by
  obtain ⟨-, rfl⟩ := update_eq_ok hu
  exact h.modifyLine n f

theorem Contiguous.insert (h : d.Contiguous) {d' : Document} {s : Section} {n : Int}
    (hi : d.insert s n = .ok d') : d'.Contiguous := by
  obtain ⟨before, target, after, upper, lower, hd, ho, hn, hc, rfl⟩ := insert_eq_ok hi
  rw [inOrder_of_ordered (Abut.ordered h)] at hd
  exact Abut.splice (hd ▸ h) hc s

end Document

end Patchwork
