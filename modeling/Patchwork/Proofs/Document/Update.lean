import Patchwork.Proofs.Document.Insertion
import Patchwork.Proofs.Section.Change

/-!
# Changing lines

Changing a line of an ordered document is a lens on that line: the line gets the new text, and no
other text, no place and no section bounds can tell (`Document.Updated`). Changes of different lines
commute, changes of one line compose, and a change commutes with an insertion when it is made at the
number that the line has then (`update_lawful`). That includes a line at which the section goes in:
the insertion puts it below, so from there on the number grows.
-/

namespace Patchwork

namespace Section

variable {before after : List Section} {target upper lower : Section} {n k : Int}

/-! ## Changes and splices -/

/-- Above a splice a line is changed at its old number. -/
theorem map_change_splice_above (ho : Ordered (before ++ target :: after))
    (hc : target.split k = .ok (upper, lower)) (s : Section) (hn : n < k) (f : String → String) :
    (splice before upper s lower after).map (·.change n f) =
      splice (before.map (·.change n f)) (upper.change n f) s (lower.change n f)
        (after.map (·.change n f)) := by
  obtain ⟨-, hta, -⟩ := List.pairwise_append.1 ho
  have hafter := (List.pairwise_cons.1 hta).1
  obtain ⟨-, hupper, hlower, -, -, hlast⟩ := split_bounds hc
  have hbelow : ∀ t ∈ lower :: after, n < t.range.first := by
    refine List.forall_mem_cons.2 ⟨by omega, ?_⟩
    intro t ht
    have := hafter t ht
    omega
  have hmoved : ∀ t ∈ (lower :: after).map (·.shift s.size), n < t.range.first := by
    intro t ht
    obtain ⟨u, hu, rfl⟩ := List.mem_map.1 ht
    have := hbelow u hu
    simp only [range_shift, LineRange.first_shift]
    omega
  have hinserted : n < (s.shift (upper.range.last - s.range.first + 1)).range.first := by
    simp only [range_shift, LineRange.first_shift]
    omega
  obtain ⟨hlow, hrest⟩ := List.forall_mem_cons.1 hbelow
  rw [splice, splice, List.map_append, List.map_cons, List.map_cons, change_of_lt_first hinserted,
    map_change_of_lt_first hmoved, change_of_lt_first hlow, map_change_of_lt_first hrest,
    range_change]

/-- From a splice on a line is changed at its new number. -/
theorem map_change_splice_below (ho : Ordered (before ++ target :: after))
    (hc : target.split k = .ok (upper, lower)) (s : Section) (hn : k ≤ n) (f : String → String) :
    (splice before upper s lower after).map (·.change (n + s.size) f) =
      splice (before.map (·.change n f)) (upper.change n f) s (lower.change n f)
        (after.map (·.change n f)) := by
  obtain ⟨-, -, hbt⟩ := List.pairwise_append.1 ho
  obtain ⟨-, hupper, -, -, hfirst, -⟩ := split_bounds hc
  have hsize := s.last_eq
  have habove : ∀ t ∈ before, t.range.last < n := by
    intro t ht
    have := hbt t ht target List.mem_cons_self
    omega
  have habove' : ∀ t ∈ before, t.range.last < n + s.size := by
    intro t ht
    have := habove t ht
    omega
  have hinserted : (s.shift (upper.range.last - s.range.first + 1)).range.last < n + s.size := by
    simp only [range_shift, LineRange.last_shift]
    omega
  have hmoved : ((lower :: after).map (·.shift s.size)).map (·.change (n + s.size) f) =
      ((lower :: after).map (·.change n f)).map (·.shift s.size) := by
    rw [List.map_map, List.map_map]
    apply List.map_congr_left
    intro t _
    exact change_shift t n s.size f
  rw [splice, splice, List.map_append, List.map_cons, List.map_cons, hmoved,
    map_change_of_last_lt habove, map_change_of_last_lt habove', change_of_last_lt hinserted,
    change_of_last_lt (by omega : upper.range.last < n + s.size),
    change_of_last_lt (by omega : upper.range.last < n), List.map_cons]

end Section

namespace Document

open Section

variable {d : Document} {n : Int}

/-- Only one section of an ordered list has the line. -/
theorem modifyLine_eq_map {l : List Section} (h : Ordered l) (n : Int) (f : String → String) :
    modifyLine n f l = l.map (·.change n f) := by
  induction l with
  | nil => rfl
  | cons s l ih =>
    obtain ⟨hs, hl⟩ := List.pairwise_cons.1 h
    rw [modifyLine, List.map_cons]
    by_cases hn : n ∈ s.range
    · have hrest : ∀ t ∈ l, n < t.range.first := by
        intro t ht
        have := hs t ht
        have := (LineRange.mem_iff.1 hn).2
        omega
      rw [if_pos hn, change_of_mem hn, map_change_of_lt_first hrest]
    · rw [if_neg hn, change_of_not_mem hn, ih hl]

theorem update_eq_map (ho : Ordered d.sections) (hn : ¬d.Outside n) (f : String → String) :
    d.update n f = .ok { d with sections := d.sections.map (·.change n f) } := by
  obtain ⟨s, hs, hmem⟩ := exists_mem_of_not_outside hn
  obtain ⟨before, after, hd⟩ := List.append_of_mem hs
  rw [← modifyLine_eq_map ho,
    update_of_sectionAt? (sectionAt?_eq hd ((hd ▸ ho).not_mem_of_mem hmem).1 hmem)]

theorem outside_map_change_iff (d : Document) (n m : Int) (f : String → String) :
    Outside { d with sections := d.sections.map (·.change n f) } m ↔ d.Outside m := by
  simp [Outside]

/-! ## The lens -/

/-- What changing the line `n` by `f` makes of `d`, told by line numbers. -/
structure Updated (d : Document) (n : Int) (f : String → String) (d' : Document) : Prop where
  base_eq : d'.base = d.base
  shapes_eq : d'.sections.map (fun s => (s.path, s.range, s.offset)) =
    d.sections.map fun s => (s.path, s.range, s.offset)
  line_self : ∃ x, d.line n = .ok x ∧ d'.line n = .ok (f x)
  line_ne : ∀ k, k ≠ n → d'.line k = d.line k
  resolve_eq : ∀ k, d'.resolve k = d.resolve k

theorem exists_line_of_not_outside (h : ¬d.Outside n) : ∃ x, d.line n = .ok x := by
  cases he : d.entryAt? n with
  | some e => exact ⟨e.1, (lookup_of_entryAt? he).1⟩
  | none => exact absurd (entryAmong?_eq_none_iff.1 he) h

theorem updated_map_change (hn : ¬d.Outside n) (f : String → String) :
    Updated d n f { d with sections := d.sections.map (·.change n f) } := by
  have hlookup := fun k => d.lookup_map (range_change · n f) (entryAt?_change · n k f)
  obtain ⟨x, hx⟩ := exists_line_of_not_outside hn
  refine ⟨rfl, by simp, ⟨x, hx, ?_⟩, ?_, fun k => (hlookup k).2⟩
  · rw [(hlookup n).1, hx, if_pos rfl]
    rfl
  · intro k hk
    rw [(hlookup k).1, if_neg hk]
    cases d.line k <;> rfl

/-! ## Changes of several lines -/

theorem update_update_self (ho : Ordered d.sections) (hn : ¬d.Outside n) (f g : String → String) :
    (d.update n f >>= fun d₁ => d₁.update n g) = d.update n (g ∘ f) := by
  have hn' := mt (outside_map_change_iff d n n f).1 hn
  rw [update_eq_map ho hn, update_eq_map ho hn]
  refine (update_eq_map (ho.map (range_change · n f)) hn' g).trans ?_
  simp only [List.map_map, Function.comp_def, change_change]

theorem update_comm (ho : Ordered d.sections) (hn : ¬d.Outside n) {m : Int} (h : m ≠ n)
    (f g : String → String) :
    (d.update n f >>= fun d₁ => d₁.update m g) = d.update m g >>= fun d₁ => d₁.update n f := by
  rw [update_eq_map ho hn]
  by_cases hm : d.Outside m
  · have hm' := (outside_map_change_iff d n m f).2 hm
    rw [update_outside hm]
    refine (update_outside hm' g).trans ?_
    rw [d.lastLine_map (range_change · n f)]
    rfl
  · have hm' := mt (outside_map_change_iff d n m f).1 hm
    have hn' := mt (outside_map_change_iff d m n g).1 hn
    rw [update_eq_map ho hm]
    refine (update_eq_map (ho.map (range_change · n f)) hm' g).trans ?_
    refine Eq.trans ?_ (update_eq_map (ho.map (range_change · m g)) hn' f).symm
    simp only [List.map_map, Function.comp_def, change_comm _ h]

/-! ## Changes and insertions -/

/-- The number of a line once `size` lines have been inserted at the line `k`. -/
def renumbered (k : Int) (size : Nat) (n : Int) : Int := if n < k then n else n + size

theorem not_outside_splice {before after : List Section} {target upper lower : Section} {k : Int}
    (hd : d.sections = before ++ target :: after) (ho : Ordered d.sections)
    (hc : target.split k = .ok (upper, lower)) (s : Section) (hn : ¬d.Outside n) :
    ¬Outside { d with sections := splice before upper s lower after } (renumbered k s.size n) := by
  have ho' : Ordered (before ++ target :: after) := hd ▸ ho
  have hentry : entryAmong? (splice before upper s lower after) (renumbered k s.size n) =
      entryAmong? d.sections n := by
    rw [hd]
    by_cases h : n < k
    · rw [renumbered, if_pos h]
      exact entryAmong?_splice_above ho' hc s h
    · rw [renumbered, if_neg h, entryAmong?_splice_below ho' hc s (by omega), Int.add_sub_cancel]
  intro hout
  rw [entryAmong?_eq_none_iff.2 hout, eq_comm, entryAmong?_eq_none_iff] at hentry
  exact hn hentry

theorem map_change_splice {before after : List Section} {target upper lower : Section} {k : Int}
    (ho : Ordered (before ++ target :: after)) (hc : target.split k = .ok (upper, lower))
    (s : Section) (n : Int) (f : String → String) :
    (splice before upper s lower after).map (·.change (renumbered k s.size n) f) =
      splice (before.map (·.change n f)) (upper.change n f) s (lower.change n f)
        (after.map (·.change n f)) := by
  by_cases h : n < k
  · rw [renumbered, if_pos h]
    exact map_change_splice_above ho hc s h f
  · rw [renumbered, if_neg h]
    exact map_change_splice_below ho hc s (Int.not_lt.1 h) f

/-- A change and an insertion can be made in either order. -/
theorem update_insert (ho : Ordered d.sections) (hn : ¬d.Outside n) (f : String → String)
    (s : Section) (k : Int) :
    (d.update n f >>= fun d₁ => d₁.insert s k) =
      d.insert s k >>= fun d₁ => d₁.update (renumbered k s.size n) f := by
  have ho' := ho.map (range_change · n f)
  rw [update_eq_map ho hn]
  show insert { d with sections := d.sections.map (·.change n f) } s k = _
  by_cases hk : d.Outside k
  · rw [insert_outside hk, insert_outside ((outside_map_change_iff d n k f).2 hk)]
    rfl
  obtain ⟨target, hmem, htarget⟩ := exists_mem_of_not_outside hk
  obtain ⟨before, after, hd⟩ := List.append_of_mem hmem
  have hd' : d.sections.map (·.change n f) =
      before.map (·.change n f) ++ target.change n f :: after.map (·.change n f) := by
    rw [hd, List.map_append, List.map_cons]
  have htarget' : k ∈ (target.change n f).range := by simpa using htarget
  rw [insert_of_ordered hd ho htarget,
    insert_of_ordered (d := { d with sections := _ }) hd' ho' htarget', split_change]
  cases hc : target.split k with
  | error e => rfl
  | ok parts =>
    obtain ⟨upper, lower⟩ := parts
    have hordered : Ordered (before ++ target :: after) := hd ▸ ho
    have hafter := update_eq_map (d := { d with sections := splice before upper s lower after })
      (hordered.splice hc s) (not_outside_splice hd ho hc s hn) f
    refine Eq.trans ?_ hafter.symm
    rw [map_change_splice hordered hc]
    rfl

/-- **Changing a line is lawful.** A change of a line that the document has is seen at that line and
nowhere else. It commutes with a change of another line, and two changes of one line are one. Made
before an insertion, it is the same as made after it, at the number that the line has then; where the
insertion is refused, it is refused for the same reason after the change. -/
theorem update_lawful (ho : Ordered d.sections) (hn : ¬d.Outside n) (f : String → String) :
    (∃ d', d.update n f = .ok d' ∧ Updated d n f d') ∧
      (∀ m g, m ≠ n → (d.update n f >>= fun d₁ => d₁.update m g) =
        d.update m g >>= fun d₁ => d₁.update n f) ∧
      (∀ g, (d.update n f >>= fun d₁ => d₁.update n g) = d.update n (g ∘ f)) ∧
      ∀ s k, (d.update n f >>= fun d₁ => d₁.insert s k) =
        d.insert s k >>= fun d₁ => d₁.update (if n < k then n else n + s.size) f := by
  refine ⟨⟨_, update_eq_map ho hn f, updated_map_change hn f⟩, ?_, ?_, ?_⟩
  · intro m g h
    exact update_comm ho hn h f g
  · intro g
    exact update_update_self ho hn f g
  · intro s k
    exact update_insert ho hn f s k

/-- Line 8 is blanked and the patch goes in at it: the blank is line 10 then. At the gap the patch is
refused before and after. -/
theorem update_lawful_gapped : Ordered Sample.gapped.sections ∧ ¬Sample.gapped.Outside 8 ∧
    (∃ d, (Sample.gapped.update 8 Text.blank >>= fun d₁ => d₁.insert Sample.patch 8) = .ok d ∧
      (Sample.gapped.insert Sample.patch 8 >>= fun d₁ => d₁.update 10 Text.blank) = .ok d ∧
      d.line 8 = .ok "p2" ∧ d.line 10 = .ok "  ") ∧
    ∃ e, (Sample.gapped.update 8 Text.blank >>= fun d₁ => d₁.insert Sample.patch 5) = .error e ∧
      (Sample.gapped.insert Sample.patch 5 >>= fun d₁ => d₁.update 10 Text.blank) = .error e := by
  have hn : ¬Sample.gapped.Outside 8 := by decide
  obtain ⟨-, -, -, hinsert⟩ := update_lawful Sample.ordered_gapped hn Text.blank
  refine ⟨Sample.ordered_gapped, hn, ⟨_, rfl, ?_, rfl, rfl⟩, ⟨_, rfl, ?_⟩⟩
  · exact (hinsert Sample.patch 8).symm
  · exact (hinsert Sample.patch 5).symm

end Document

end Patchwork
