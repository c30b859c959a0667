import Patchwork.Proofs.Document.Located
import Patchwork.Proofs.Section.Entry

/-!
# Insertion line by line

An ordered document takes a section at every inner line of its sections (`Section.Inner`) and nowhere
else: outside of all sections there is none to cut, and at an edge of one the cut is refused. Told by
line numbers, an insertion leaves the lines above it as they were, puts those of the new section from
its line on, and moves the lines below down by as many (`Document.Spliced`).

The sections may leave gaps between them. A look-up in a gap is refused before and after, which is why
answers are compared by `Document.SameAnswer` and not for equality: the message of the refusal names
the last line of the document.
-/

namespace Patchwork

namespace Section

variable {s : Section} {n : Int}

/-! ## The entries of a splice -/

section Splice

variable {before after : List Section} {target upper lower : Section}

theorem length_splice (before : List Section) (target upper s lower : Section)
    (after : List Section) :
    (splice before upper s lower after).length = (before ++ target :: after).length + 2 := by
  simp only [splice, List.length_append, List.length_cons, List.length_map]
  omega

variable (ho : Ordered (before ++ target :: after)) (hc : target.split n = .ok (upper, lower))

include ho hc

theorem entryAmong?_splice_above (s : Section) {k : Int} (hk : k < n) :
    entryAmong? (splice before upper s lower after) k =
      entryAmong? (before ++ target :: after) k := by
  obtain ⟨-, hta, -⟩ := List.pairwise_append.1 ho
  have hafter := (List.pairwise_cons.1 hta).1
  obtain ⟨-, e₂, e₃, e₄, -, h₂⟩ := split_bounds hc
  have hinserted : s.entryAt? (k - (upper.range.last - s.range.first + 1)) = none :=
    entryAt?_of_lt_first (by omega)
  have hmoved : entryAmong? (lower :: after) (k - s.size) = none := by
    apply entryAmong?_of_lt_first
    refine List.forall_mem_cons.2 ⟨by omega, fun t ht => ?_⟩
    have := hafter t ht
    omega
  have hold : entryAmong? after k = none := by
    apply entryAmong?_of_lt_first
    intro t ht
    have := hafter t ht
    omega
  rw [splice, entryAmong?_append, entryAmong?_cons, entryAmong?_cons, entryAt?_shift, hinserted,
    entryAmong?_map_shift, hmoved, entryAmong?_append, entryAmong?_cons, hold,
    entryAt?_upper hc hk]
  rfl

/-- Before the inserted section there is nothing at its lines or below. -/
theorem entryAmong?_before_splice {k : Int} (hk : n ≤ k) : entryAmong? before k = none := by
  obtain ⟨-, -, hbefore⟩ := List.pairwise_append.1 ho
  obtain ⟨-, -, -, -, h₁, -⟩ := split_bounds hc
  apply entryAmong?_of_last_lt
  intro b hb
  have := hbefore b hb target List.mem_cons_self
  omega

theorem entryAmong?_splice_within (s : Section) {k : Int} (hk : n ≤ k) (hks : k < n + s.size) :
    entryAmong? (splice before upper s lower after) k = s.entryAt? (k - n + s.range.first) := by
  obtain ⟨-, e₂, -, -, -, -⟩ := split_bounds hc
  have hupper : upper.entryAt? k = none := entryAt?_of_last_lt (by omega)
  have hmem : k - n + s.range.first ∈ s.range := by
    have := s.last_eq
    exact LineRange.mem_iff.2 (by omega)
  have hplace : k - (upper.range.last - s.range.first + 1) = k - n + s.range.first := by omega
  obtain ⟨x, -, hx⟩ := entryAt?_of_mem hmem
  rw [splice, entryAmong?_append, entryAmong?_before_splice ho hc hk, entryAmong?_cons, hupper,
    entryAmong?_cons, entryAt?_shift, hplace, hx]
  rfl

theorem entryAmong?_splice_below (s : Section) {k : Int} (hk : n + s.size ≤ k) :
    entryAmong? (splice before upper s lower after) k =
      entryAmong? (before ++ target :: after) (k - s.size) := by
  obtain ⟨-, e₂, -, -, -, -⟩ := split_bounds hc
  have hupper : upper.entryAt? k = none := entryAt?_of_last_lt (by omega)
  have hinserted : s.entryAt? (k - (upper.range.last - s.range.first + 1)) = none := by
    have := s.last_eq
    exact entryAt?_of_last_lt (by omega)
  have hlower : lower.entryAt? (k - s.size) = target.entryAt? (k - s.size) :=
    entryAt?_lower hc (by omega)
  rw [splice, entryAmong?_append, entryAmong?_before_splice ho hc (by omega), entryAmong?_cons,
    hupper, entryAmong?_cons, entryAt?_shift, hinserted, entryAmong?_map_shift, entryAmong?_cons,
    hlower, entryAmong?_append, entryAmong?_before_splice ho hc (by omega), entryAmong?_cons]
  rfl

end Splice

end Section

namespace Document

open Section

variable {d d' : Document} {n : Int}

/-! ## Answers -/

/-- The text of the document at the line `n`, with its place. -/
def entryAt? (d : Document) (n : Int) : Option (String × Location) := entryAmong? d.sections n

/-- Both give one and the same result, or both are refused because the line is out of range. -/
def SameAnswer {α : Type} (x y : Except Error α) : Prop :=
  (∃ a, x = .ok a ∧ y = .ok a) ∨
    ∃ e e', x = .error e ∧ y = .error e' ∧ e.kind? = some .range ∧ e'.kind? = some .range

/-- Looking a line up finds its entry. -/
theorem lookup_of_entryAt? {e : String × Location} (h : d.entryAt? n = some e) :
    d.line n = .ok e.1 ∧ d.resolve n = .ok e.2 := by
  obtain ⟨before, s, after, hd, hs, hbefore⟩ := List.findSome?_eq_some_iff.1 h
  have howner : d.owner n = .ok s :=
    owner_eq hd (fun t ht => entryAt?_eq_none_iff.1 (hbefore t ht)) (mem_of_entryAt? hs)
  rw [line, resolve, howner]
  exact Section.lookup_of_entryAt? hs

theorem lookup_of_entryAt?_eq_none (h : d.entryAt? n = none) :
    d.line n = failFor (.lineOutsideDocument n d.lastLine) ∧
      d.resolve n = failFor (.lineOutsideDocument n d.lastLine) :=
  lookup_of_forall_not_mem (entryAmong?_eq_none_iff.1 h)

theorem sameAnswer_of_entryAt?_eq {m : Int} (h : d.entryAt? n = d'.entryAt? m) :
    SameAnswer (d.line n) (d'.line m) ∧ SameAnswer (d.resolve n) (d'.resolve m) := by
  cases he : d.entryAt? n with
  | some e =>
    obtain ⟨hline, hresolve⟩ := lookup_of_entryAt? he
    obtain ⟨hline', hresolve'⟩ := lookup_of_entryAt? (h.symm.trans he)
    exact ⟨Or.inl ⟨_, hline, hline'⟩, Or.inl ⟨_, hresolve, hresolve'⟩⟩
  | none =>
    obtain ⟨hline, hresolve⟩ := lookup_of_entryAt?_eq_none he
    obtain ⟨hline', hresolve'⟩ := lookup_of_entryAt?_eq_none (h.symm.trans he)
    exact ⟨Or.inr ⟨_, _, hline, hline', rfl, rfl⟩, Or.inr ⟨_, _, hresolve, hresolve', rfl, rfl⟩⟩

/-- What keeps the ranges of sections keeps the last line. -/
theorem lastLine_map (d : Document) {h : Section → Section} (hrange : ∀ s, (h s).range = s.range) :
    lastLine { d with sections := d.sections.map h } = d.lastLine := by
  unfold lastLine
  simp only [List.getLast?_map]
  cases d.sections.getLast? with
  | none => rfl
  | some s => exact congrArg LineRange.last (hrange s)

/-- What changes the texts of sections and nothing else does so to the answers. -/
theorem lookup_map (d : Document) {h : Section → Section} {f : String → String}
    (hrange : ∀ s, (h s).range = s.range)
    (hentry : ∀ s, (h s).entryAt? n = (s.entryAt? n).map (Prod.map f id)) :
    line { d with sections := d.sections.map h } n = (d.line n).map f ∧
      resolve { d with sections := d.sections.map h } n = d.resolve n := by
  have hmap : entryAmong? (d.sections.map h) n = (d.entryAt? n).map (Prod.map f id) :=
    entryAmong?_map fun s _ => hentry s
  cases he : d.entryAt? n with
  | some e =>
    rw [he] at hmap
    obtain ⟨hline, hresolve⟩ := lookup_of_entryAt? he
    obtain ⟨hline', hresolve'⟩ := lookup_of_entryAt? (d := ⟨d.base, _⟩) hmap
    rw [hline, hline', hresolve, hresolve']
    exact ⟨rfl, rfl⟩
  | none =>
    rw [he] at hmap
    obtain ⟨hline, hresolve⟩ := lookup_of_entryAt?_eq_none he
    obtain ⟨hline', hresolve'⟩ := lookup_of_entryAt?_eq_none (d := ⟨d.base, _⟩) hmap
    rw [hline, hline', hresolve, hresolve', d.lastLine_map hrange]
    exact ⟨rfl, rfl⟩

/-! ## Where a section can be inserted -/

/-- No section has the line. -/
def Outside (d : Document) (n : Int) : Prop := ∀ t ∈ d.sections, n ∉ t.range

/-- A section has the line as its first or its last, or has no other. -/
def AtEdge (d : Document) (n : Int) : Prop :=
  ∃ t ∈ d.sections, n ∈ t.range ∧ (t.size = 1 ∨ n = t.range.first ∨ n = t.range.last)

instance (d : Document) (n : Int) : Decidable (d.Outside n) :=
  inferInstanceAs (Decidable (∀ t ∈ d.sections, n ∉ t.range))

instance (d : Document) (n : Int) : Decidable (d.AtEdge n) :=
  inferInstanceAs (Decidable (∃ t ∈ d.sections,
    n ∈ t.range ∧ (t.size = 1 ∨ n = t.range.first ∨ n = t.range.last)))

theorem exists_mem_of_not_outside (h : ¬d.Outside n) : ∃ s ∈ d.sections, n ∈ s.range := by
  simpa [Outside] using h

theorem insert_of_inner {before after : List Section} {target : Section}
    (hd : d.sections = before ++ target :: after) (ho : Ordered d.sections) (h : target.Inner n)
    (s : Section) :
    d.insert s n = .ok { d with
      sections := splice before (target.before n h.bounds) s (target.since n h.bounds) after } := by
  rw [insert_of_ordered hd ho h.mem, split_of_inner h]
  rfl

theorem insert_of_atEdge (ho : Ordered d.sections) (h : d.AtEdge n) (s : Section) :
    ∃ cause : Cause, cause.kind = .range ∧ d.insert s n = .error (.reported cause none) := by
  obtain ⟨target, hmem, hn, hedge⟩ := h
  obtain ⟨before, after, hd⟩ := List.append_of_mem hmem
  have hnot : ¬target.Inner n := (not_inner_iff hn).2 hedge
  cases hc : target.split n with
  | ok parts => exact absurd (exists_split_iff.1 ⟨parts, hc⟩) hnot
  | error e =>
    obtain ⟨cause, hkind, rfl⟩ := cause_of_split hc
    refine ⟨cause, hkind, ?_⟩
    rw [insert_of_ordered hd ho hn, hc]
    rfl

/-- Every line is outside of all sections, at an edge of one, or inner. -/
theorem exists_inner (hout : ¬d.Outside n) (hedge : ¬d.AtEdge n) :
    ∃ before target after, d.sections = before ++ target :: after ∧ target.Inner n := by
  obtain ⟨target, hmem, hn⟩ := exists_mem_of_not_outside hout
  obtain ⟨before, after, hd⟩ := List.append_of_mem hmem
  refine ⟨before, target, after, hd, ?_⟩
  by_contra hnot
  exact hedge ⟨target, hmem, hn, (not_inner_iff hn).1 hnot⟩

/-! ## The law of splicing -/

/-- What inserting the section `s` at the line `n` of `d` makes of it, told by line numbers. -/
structure Spliced (d : Document) (s : Section) (n : Int) (d' : Document) : Prop where
  base_eq : d'.base = d.base
  length_eq : d'.sections.length = d.sections.length + 2
  ordered : Ordered d'.sections
  above : ∀ k, k < n → SameAnswer (d'.line k) (d.line k) ∧ SameAnswer (d'.resolve k) (d.resolve k)
  within : ∀ i : Nat, i < s.size → ∃ x q, s.lines[i]? = some x ∧
    s.resolve (s.range.first + i) = .ok q ∧ d'.line (n + i) = .ok x ∧ d'.resolve (n + i) = .ok q
  below : ∀ k, n + s.size ≤ k → SameAnswer (d'.line k) (d.line (k - s.size)) ∧
    SameAnswer (d'.resolve k) (d.resolve (k - s.size))
  lines_eq : d.Contiguous →
    d'.lines = d.lines.take (n - 1).toNat ++ s.lines ++ d.lines.drop (n - 1).toNat

theorem Contiguous.lines_insert (h : d.Contiguous) {s : Section} (hi : d.insert s n = .ok d') :
    d'.lines = d.lines.take (n - 1).toNat ++ s.lines ++ d.lines.drop (n - 1).toNat := by
  have hs : s.located.map (·.1) = s.lines := map_fst_placedFrom _ _ _
  rw [← d'.map_fst_located, h.located_insert hi, List.map_append, List.map_append, List.map_take,
    List.map_drop, d.map_fst_located, hs]

theorem spliced_of_inner {before after : List Section} {target : Section}
    (hd : d.sections = before ++ target :: after) (ho : Ordered d.sections) (h : target.Inner n)
    (s : Section) : ∃ d', d.insert s n = .ok d' ∧ Spliced d s n d' := by
  have hc := split_of_inner h
  have ho' : Ordered (before ++ target :: after) := hd ▸ ho
  have hi := insert_of_inner hd ho h s
  refine ⟨_, hi, ⟨rfl, ?_, ho'.splice hc s, fun k hk => ?_, fun i hlt => ?_, fun k hk => ?_,
    fun hcont => hcont.lines_insert hi⟩⟩
  · rw [hd]
    exact length_splice before target _ s _ after
  · apply sameAnswer_of_entryAt?_eq
    simp only [entryAt?, hd]
    exact entryAmong?_splice_above ho' hc s hk
  · have hmem : s.range.first + i ∈ s.range := by
      have := s.last_eq
      exact LineRange.mem_iff.2 (by omega)
    have hindex : s.index (s.range.first + i) = i := by
      unfold index
      omega
    obtain ⟨x, hx, hentry⟩ := entryAt?_of_mem hmem
    rw [hindex] at hx
    have hplace : n + (i : Int) - n + s.range.first = s.range.first + i := by omega
    have hnew : entryAmong? (splice before (target.before n h.bounds) s (target.since n h.bounds)
        after) (n + i) = some (x, ⟨s.path, s.range.first + i + s.offset⟩) := by
      rw [entryAmong?_splice_within ho' hc s (by omega) (by omega), hplace, hentry]
    exact ⟨x, _, hx, s.resolve_of_mem hmem, lookup_of_entryAt? (d := ⟨d.base, _⟩) hnew⟩
  · apply sameAnswer_of_entryAt?_eq
    simp only [entryAt?, hd]
    exact entryAmong?_splice_below ho' hc s hk

/-- **The law of splicing.** An ordered document refuses a section outside of its sections and at
their edges, for different reasons, and takes it everywhere else; then the lines above are answered
for as before, the lines from there on as the section answered for its own, and the lines below as
before when they were numbered lower. -/
theorem insert_splices (ho : Ordered d.sections) (s : Section) (n : Int) :
    ((∃ e, d.insert s n = .error e ∧ e.kind? = some .partition) ↔ d.Outside n) ∧
      ((∃ e, d.insert s n = .error e ∧ e.kind? = some .range) ↔ d.AtEdge n) ∧
      (¬d.Outside n → ¬d.AtEdge n → ∃ d', d.insert s n = .ok d' ∧ Spliced d s n d') := by
  have houtside : d.Outside n → d.insert s n = failFor (.insertOutside n) :=
    fun h => insert_outside h s
  have hinner : ¬d.Outside n → ¬d.AtEdge n → ∃ d', d.insert s n = .ok d' ∧ Spliced d s n d' := by
    intro hout hedge
    obtain ⟨before, target, after, hd, h⟩ := exists_inner hout hedge
    exact spliced_of_inner hd ho h s
  refine ⟨⟨?_, fun h => ⟨_, houtside h, rfl⟩⟩, ⟨?_, fun h => ?_⟩, hinner⟩
  · rintro ⟨e, he, hkind⟩
    by_contra hout
    by_cases hedge : d.AtEdge n
    · obtain ⟨cause, hrange, hi⟩ := insert_of_atEdge ho hedge s
      obtain rfl := Except.error.inj (hi.symm.trans he)
      simp [Error.kind?, hrange] at hkind
    · obtain ⟨d', hi, -⟩ := hinner hout hedge
      rw [hi] at he
      cases he
  · rintro ⟨e, he, hkind⟩
    by_contra hedge
    by_cases hout : d.Outside n
    · obtain rfl := Except.error.inj ((houtside hout).symm.trans he)
      cases hkind
    · obtain ⟨d', hi, -⟩ := hinner hout hedge
      rw [hi] at he
      cases he
  · obtain ⟨cause, hrange, hi⟩ := insert_of_atEdge ho h s
    exact ⟨_, hi, congrArg some hrange⟩

end Document

namespace Sample

def head : Section := ⟨"a", ⟨2, 4, by decide⟩, ["a1", "a2", "a3"], -1, rfl, by decide⟩

/-- A document with a gap at line 5. -/
def gapped : Document :=
  ⟨none, [head, ⟨"b", ⟨6, 9, by decide⟩, ["b3", "b4", "b5", "b6"], -3, rfl, by decide⟩]⟩

theorem ordered_gapped : Section.Ordered gapped.sections := by
  unfold Section.Ordered
  decide

/-- Two lines of a source that have been numbered far above. -/
def patch : Section := ⟨"p", ⟨-4, -3, by decide⟩, ["p2", "p3"], 6, rfl, by decide⟩

end Sample

open Document in
/-- The gap refuses the patch, and so does line 6, above which its section has nothing. At line 8 the
patch is let in, and its first line there is still line 2 of its source. -/
theorem insert_splices_gapped : Section.Ordered Sample.gapped.sections ∧
    (∃ e, Sample.gapped.insert Sample.patch 5 = .error e ∧ e.kind? = some .partition) ∧
    (∃ e, Sample.gapped.insert Sample.patch 6 = .error e ∧ e.kind? = some .range) ∧
    ∃ d, Sample.gapped.insert Sample.patch 8 = .ok d ∧ d.sections.length = 4 ∧
      d.line 8 = .ok "p2" ∧ d.resolve 8 = .ok ⟨"p", 2⟩ ∧
      SameAnswer (d.resolve 10) (Sample.gapped.resolve 8) ∧
      SameAnswer (d.line 5) (Sample.gapped.line 5) := by
  have ho := Sample.ordered_gapped
  obtain ⟨-, -, hinner⟩ := insert_splices ho Sample.patch 8
  obtain ⟨d, hi, h⟩ := hinner (by decide) (by decide)
  obtain ⟨x, q, hx, hq, hline, hresolve⟩ := h.within 0 (by decide)
  obtain rfl := Option.some.inj hx
  obtain rfl := Except.ok.inj hq
  exact ⟨ho, (insert_splices ho Sample.patch 5).1.2 (by decide),
    (insert_splices ho Sample.patch 6).2.1.2 (by decide), d, hi, h.length_eq, hline, hresolve,
    (h.below 10 (by decide)).2, (h.above 5 (by decide)).1⟩

end Patchwork
