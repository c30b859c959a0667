import Patchwork.Proofs.Section.Cut

/-!
# Lines by their numbers

What sections hold at a document line number is an entry: a text with the place it comes from
(`entryAt?`), or among several sections the entry of the first that has the line (`entryAmong?`).
Moving sections moves their entries (`entryAmong?_map_shift`), and the parts of a cut divide those of
the section between them (`entryAt?_upper`, `entryAt?_lower`).
-/

namespace Patchwork

namespace Section

/-- The text that the section has at the document line `n`, with its place. -/
def entryAt? (s : Section) (n : Int) : Option (String × Location) :=
  if n ∈ s.range then s.lines[s.index n]?.map fun x => (x, ⟨s.path, n + s.offset⟩) else none

/-- The entry that the first section with the document line `n` has there. -/
def entryAmong? (l : List Section) (n : Int) : Option (String × Location) :=
  l.findSome? fun s => s.entryAt? n

variable {s : Section} {n : Int}

theorem entryAt?_of_mem (h : n ∈ s.range) :
    ∃ x, s.lines[s.index n]? = some x ∧ s.entryAt? n = some (x, ⟨s.path, n + s.offset⟩) := by
  refine ⟨_, List.getElem?_eq_getElem (index_lt h), ?_⟩
  simp [entryAt?, h, index_lt h]

theorem entryAt?_of_not_mem (h : n ∉ s.range) : s.entryAt? n = none := if_neg h

theorem entryAt?_eq_none_iff : s.entryAt? n = none ↔ n ∉ s.range := by
  constructor
  · intro h hn
    obtain ⟨x, -, hx⟩ := entryAt?_of_mem hn
    rw [h] at hx
    cases hx
  · exact entryAt?_of_not_mem

theorem mem_of_entryAt? {e : String × Location} (h : s.entryAt? n = some e) : n ∈ s.range := by
  by_contra hn
  rw [entryAt?_of_not_mem hn] at h
  cases h

theorem entryAt?_of_lt_first (h : n < s.range.first) : s.entryAt? n = none :=
  entryAt?_of_not_mem fun hn => by
    have := (LineRange.mem_iff.1 hn).1
    omega

theorem entryAt?_of_last_lt (h : s.range.last < n) : s.entryAt? n = none :=
  entryAt?_of_not_mem fun hn => by
    have := (LineRange.mem_iff.1 hn).2
    omega

/-- Where a section has other texts and is the same otherwise, its entries have those texts. -/
theorem entryAt?_eq_map {s' : Section} {g : String → String} (hpath : s'.path = s.path)
    (hrange : s'.range = s.range) (hoffset : s'.offset = s.offset)
    (hlines : s'.lines[s.index n]? = s.lines[s.index n]?.map g) :
    s'.entryAt? n = (s.entryAt? n).map (Prod.map g id) := by
  have hindex : s'.index n = s.index n := by rw [index, index, hrange]
  by_cases h : n ∈ s.range
  · have h' : n ∈ s'.range := by rwa [hrange]
    rw [entryAt?, entryAt?, if_pos h, if_pos h', hindex, hlines, hpath, hoffset]
    cases s.lines[s.index n]? <;> rfl
  · have h' : n ∉ s'.range := by rwa [hrange]
    rw [entryAt?_of_not_mem h, entryAt?_of_not_mem h']
    rfl

/-! ## Answers -/

theorem line_of_mem (h : n ∈ s.range) :
    ∃ x, s.lines[(n - s.range.first).toNat]? = some x ∧ s.line n = .ok x := by
  refine ⟨_, List.getElem?_eq_getElem (index_lt h), ?_⟩
  rw [line, dif_pos h]
  rfl

theorem resolve_of_mem (h : n ∈ s.range) : s.resolve n = .ok ⟨s.path, n + s.offset⟩ := by
  rw [resolve, if_pos h]

/-- Looking a line up finds its entry. -/
theorem lookup_of_entryAt? {e : String × Location} (h : s.entryAt? n = some e) :
    s.line n = .ok e.1 ∧ s.resolve n = .ok e.2 := by
  have hn := mem_of_entryAt? h
  obtain ⟨x, hx, hline⟩ := line_of_mem hn
  obtain ⟨y, hy, hentry⟩ := entryAt?_of_mem hn
  obtain rfl : x = y := Option.some.inj (hx.symm.trans hy)
  obtain rfl := Option.some.inj (hentry.symm.trans h)
  exact ⟨hline, resolve_of_mem hn⟩

theorem lookup_of_not_mem (h : n ∉ s.range) :
    s.line n = failFor (.lineOutsideSection n s.range) ∧
      s.resolve n = failFor (.unresolvedLine n s.range) :=
  ⟨dif_neg h, if_neg h⟩

/-! ## Moving -/

theorem mem_range_shift {k : Int} : n ∈ (s.shift k).range ↔ n - k ∈ s.range := by
  simp only [LineRange.mem_iff, range_shift, LineRange.first_shift, LineRange.last_shift]
  omega

theorem add_mem_range_shift {k : Int} : n + k ∈ (s.shift k).range ↔ n ∈ s.range := by
  rw [mem_range_shift, Int.add_sub_cancel]

theorem entryAt?_shift (s : Section) (k n : Int) : (s.shift k).entryAt? n = s.entryAt? (n - k) := by
  have hplace : n + (s.offset - k) = n - k + s.offset := by omega
  by_cases h : n - k ∈ s.range
  · rw [entryAt?, entryAt?, if_pos h, if_pos (mem_range_shift.2 h), index_shift, lines_shift,
      path_shift, offset_shift, hplace]
  · rw [entryAt?_of_not_mem h, entryAt?_of_not_mem (mt mem_range_shift.1 h)]

/-! ## Cutting -/

section Cut

variable {upper lower : Section} {k : Int}

/-- The upper part of a cut has the lines above the cut. -/
theorem entryAt?_upper (h : s.split k = .ok (upper, lower)) (hn : n < k) :
    upper.entryAt? n = s.entryAt? n := by
  obtain ⟨⟨hfirst, hlast⟩, rfl, -⟩ := split_eq_ok.1 h
  by_cases hs : s.range.first ≤ n
  · have hmem : n ∈ s.range := LineRange.mem_iff.2 (by omega)
    have hupper : n ∈ (s.before k ⟨hfirst, Int.le_of_lt hlast⟩).range :=
      LineRange.mem_iff.2 ⟨hs, Int.le_sub_one_of_lt hn⟩
    have hindex : s.index n < s.index k := by
      unfold index
      omega
    rw [entryAt?, entryAt?, if_pos hmem, if_pos hupper]
    show ((s.lines.take (s.index k))[s.index n]?).map _ = _
    rw [List.getElem?_take_of_lt hindex]
    rfl
  · rw [entryAt?_of_lt_first (s := s) (by omega)]
    exact entryAt?_of_lt_first (Int.not_le.1 hs)

/-- The lower part of a cut has the lines from the cut on. -/
theorem entryAt?_lower (h : s.split k = .ok (upper, lower)) (hn : k ≤ n) :
    lower.entryAt? n = s.entryAt? n := by
  obtain ⟨⟨hfirst, hlast⟩, -, rfl⟩ := split_eq_ok.1 h
  by_cases hs : n ≤ s.range.last
  · have hmem : n ∈ s.range := LineRange.mem_iff.2 (by omega)
    have hlower : n ∈ (s.since k ⟨hfirst, Int.le_of_lt hlast⟩).range :=
      LineRange.mem_iff.2 ⟨hn, hs⟩
    have hindex : s.index k + (n - k).toNat = s.index n := by
      unfold index
      omega
    rw [entryAt?, entryAt?, if_pos hmem, if_pos hlower, ← hindex]
    show ((s.lines.drop (s.index k))[(n - k).toNat]?).map _ = _
    rw [List.getElem?_drop]
    rfl
  · rw [entryAt?_of_last_lt (s := s) (by omega)]
    exact entryAt?_of_last_lt (Int.not_le.1 hs)

end Cut

/-! ## Several sections -/

@[simp] theorem entryAmong?_nil (n : Int) : entryAmong? [] n = none := rfl

@[simp] theorem entryAmong?_append (l₁ l₂ : List Section) (n : Int) :
    entryAmong? (l₁ ++ l₂) n = (entryAmong? l₁ n).or (entryAmong? l₂ n) := List.findSome?_append

@[simp] theorem entryAmong?_cons (s : Section) (l : List Section) (n : Int) :
    entryAmong? (s :: l) n = (s.entryAt? n).or (entryAmong? l n) := by
  rw [entryAmong?, List.findSome?_cons]
  cases s.entryAt? n with
  | none => rfl
  | some e => rfl

theorem entryAmong?_eq_none_iff {l : List Section} :
    entryAmong? l n = none ↔ ∀ s ∈ l, n ∉ s.range := by
  simp [entryAmong?, entryAt?_eq_none_iff]

theorem entryAmong?_map {l : List Section} {h : Section → Section}
    {g : String × Location → String × Location}
    (hentry : ∀ s ∈ l, (h s).entryAt? n = (s.entryAt? n).map g) :
    entryAmong? (l.map h) n = (entryAmong? l n).map g := by
  induction l with
  | nil => rfl
  | cons s l ih =>
    obtain ⟨hs, hl⟩ := List.forall_mem_cons.1 hentry
    rw [List.map_cons, entryAmong?_cons, ih hl, hs, entryAmong?_cons, Option.map_or]

theorem entryAmong?_map_shift (l : List Section) (k n : Int) :
    entryAmong? (l.map (·.shift k)) n = entryAmong? l (n - k) := by
  induction l with
  | nil => rfl
  | cons s l ih => rw [List.map_cons, entryAmong?_cons, ih, entryAt?_shift, entryAmong?_cons]

/-- Sections that all end above a line have nothing there. -/
theorem entryAmong?_of_last_lt {l : List Section} (h : ∀ s ∈ l, s.range.last < n) :
    entryAmong? l n = none := by
  rw [entryAmong?_eq_none_iff]
  intro s hs
  exact entryAt?_eq_none_iff.1 (entryAt?_of_last_lt (h s hs))

/-- Sections that all begin below a line have nothing there. -/
theorem entryAmong?_of_lt_first {l : List Section} (h : ∀ s ∈ l, n < s.range.first) :
    entryAmong? l n = none := by
  rw [entryAmong?_eq_none_iff]
  intro s hs
  exact entryAt?_eq_none_iff.1 (entryAt?_of_lt_first (h s hs))

end Section

end Patchwork
