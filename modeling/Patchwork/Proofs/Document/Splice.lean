import Patchwork.Document.Edit
import Patchwork.Proofs.Section.Cut
import Patchwork.Proofs.Section.Order

/-!
# Splicing into ordered documents

In a document whose sections are ordered, `Document.update` and `Document.insert` touch the one
section that holds the line (`update_eq`, `insert_of_ordered`). Insertion into any document
succeeds only if its sections had no overlap to begin with (`insert_eq_ok`): moving the later
sections down neither pulls an overlapping pair apart nor pushes a disjoint one together.
-/

namespace Patchwork

namespace Section

/-- The sections `before` and `after` with the two parts `upper` and `lower` of a cut between them
and `s` moved into the cut. -/
def splice (before : List Section) (upper s lower : Section) (after : List Section) : List Section :=
  before ++ upper :: s.shift (upper.range.last - s.range.first + 1) ::
    (lower :: after).map (·.shift s.size)

section Splice

variable {before after : List Section} {target upper lower : Section} {n : Int}

theorem Ordered.splice (ho : Ordered (before ++ target :: after))
    (hc : target.split n = .ok (upper, lower)) (s : Section) :
    Ordered (splice before upper s lower after) := by
  obtain ⟨hb, hta, hbt⟩ := List.pairwise_append.1 ho
  obtain ⟨ht, ha⟩ := List.pairwise_cons.1 hta
  obtain ⟨e₁, e₂, e₃, e₄, h₁, h₂⟩ := split_bounds hc
  have hs := s.last_eq
  have hlower : Ordered ((lower :: after).map (·.shift s.size)) := by
    refine Ordered.map_shift (List.pairwise_cons.2 ⟨fun t h => ?_, ha⟩) _
    have := ht t h
    omega
  have hmoved : ∀ t ∈ (lower :: after).map (·.shift s.size), n + s.size ≤ t.range.first := by
    intro t h
    obtain ⟨t', h', rfl⟩ := List.mem_map.1 h
    simp only [range_shift, LineRange.first_shift]
    rcases List.mem_cons.1 h' with rfl | h'
    · omega
    · have := ht t' h'
      omega
  refine List.pairwise_append.2 ⟨hb, List.pairwise_cons.2 ⟨fun t h => ?_,
    List.pairwise_cons.2 ⟨fun t h => ?_, hlower⟩⟩, fun b hb' t h => ?_⟩
  · rcases List.mem_cons.1 h with rfl | h
    · simp only [range_shift, LineRange.first_shift]
      omega
    · have := hmoved t h
      omega
  · have := hmoved t h
    simp only [range_shift, LineRange.last_shift]
    omega
  · have := hbt b hb' target List.mem_cons_self
    rcases List.mem_cons.1 h with rfl | h
    · omega
    · rcases List.mem_cons.1 h with rfl | h
      · simp only [range_shift, LineRange.first_shift]
        omega
      · have := hmoved t h
        omega

/-- If there is no overlap after the splice, there was none before it. -/
theorem ordered_of_splice {s : Section} (hsort : Sorted (before ++ target :: after))
    (hc : target.split n = .ok (upper, lower))
    (hd : (splice before upper s lower after).Pairwise Disjoint) :
    Ordered (before ++ target :: after) := by
  obtain ⟨-, hta, hbt⟩ := List.pairwise_append.1 hsort
  have hta := (List.pairwise_cons.1 hta).1
  obtain ⟨hb, hrest, hbu⟩ := List.pairwise_append.1 hd
  obtain ⟨hu, hrest⟩ := List.pairwise_cons.1 hrest
  obtain ⟨hi, hlow⟩ := List.pairwise_cons.1 hrest
  obtain ⟨hl, ha⟩ := List.pairwise_cons.1 hlow
  obtain ⟨e₁, e₂, e₃, e₄, h₁, h₂⟩ := split_bounds hc
  have hs := s.last_eq
  have hbefore : ∀ b ∈ before, b.range.last < target.range.first := by
    intro b h
    have hle := LineRange.first_le_of_le (hbt b h target List.mem_cons_self)
    have hdis := hbu b h upper List.mem_cons_self
    unfold Disjoint at hdis
    omega
  -- wherever `a` began inside the old section, it now begins in one of the three parts
  have hafter : ∀ a ∈ after, target.range.last < a.range.first := by
    intro a h
    have hle := LineRange.first_le_of_le (hta a h)
    have hmem : a.shift s.size ∈ (lower :: after).map (·.shift s.size) :=
      List.mem_map_of_mem (List.mem_cons_of_mem _ h)
    have hdu := hu _ (List.mem_cons_of_mem _ hmem)
    have hdi := hi _ hmem
    have hdl := hl _ (List.mem_map_of_mem h)
    have ha' := a.range.first_le_last
    unfold Disjoint at hdu hdi hdl
    simp only [range_shift, LineRange.first_shift, LineRange.last_shift] at hdu hdi hdl
    omega
  have hafter' : after.Pairwise Disjoint := by
    refine (List.pairwise_map.1 ha).imp fun {a b} h => ?_
    unfold Disjoint at h ⊢
    simp only [range_shift, LineRange.first_shift, LineRange.last_shift] at h
    omega
  refine hsort.ordered (List.pairwise_append.2 ⟨hb, List.pairwise_cons.2
    ⟨fun a h => Or.inl (hafter a h), hafter'⟩, fun b h t ht => Or.inl ?_⟩)
  have := hbefore b h
  rcases List.mem_cons.1 ht with rfl | ht
  · exact this
  · have := hafter t ht
    have := target.range.first_le_last
    omega

/-- What holds of all lines and of those of the section spliced in holds of all afterwards. -/
theorem forall_mem_splice {P : String → Prop} {s : Section} (hc : target.split n = .ok (upper, lower))
    (h : ∀ t ∈ before ++ target :: after, ∀ x ∈ t.lines, P x) (hs : ∀ x ∈ s.lines, P x) :
    ∀ t ∈ splice before upper s lower after, ∀ x ∈ t.lines, P x := by
  obtain ⟨hb, hta⟩ := List.forall_mem_append.1 h
  obtain ⟨ht, ha⟩ := List.forall_mem_cons.1 hta
  obtain ⟨-, rfl, rfl⟩ := split_eq_ok.1 hc
  refine List.forall_mem_append.2 ⟨hb, List.forall_mem_cons.2 ⟨fun x hx => ht x ?_,
    List.forall_mem_cons.2 ⟨hs, List.forall_mem_map.2 (List.forall_mem_cons.2
      ⟨fun x hx => ht x ?_, ha⟩)⟩⟩⟩
  · exact List.mem_of_mem_take hx
  · exact List.mem_of_mem_drop hx

/-- Splicing into abutting sections gives abutting sections. -/
theorem Abut.splice {m : Int} (h : Abut m (before ++ target :: after))
    (hc : target.split n = .ok (upper, lower)) (s : Section) :
    Abut m (splice before upper s lower after) := by
  obtain ⟨hb, ht⟩ := abut_append.1 h
  obtain ⟨ht, ha⟩ := ht
  obtain ⟨e₁, e₂, e₃, e₄, h₁, h₂⟩ := split_bounds hc
  have hs := s.last_eq
  have hlower : Abut n (lower :: after) := ⟨e₃, by rwa [e₄]⟩
  have hmoved := hlower.map_shift s.size
  refine abut_append.2 ⟨hb, e₁.trans ht, ?_, ?_⟩
  · simp only [range_shift, LineRange.first_shift]
    omega
  · have e : (s.shift (upper.range.last - s.range.first + 1)).range.last + 1 = n + s.size := by
      simp only [range_shift, LineRange.last_shift]
      omega
    rwa [e]

end Splice

end Section

namespace Document

open Section

variable {d : Document} {n : Int}

/-! ## Looking up the section that holds a line -/

theorem sectionAt?_eq_none_iff : d.sectionAt? n = none ↔ ∀ s ∈ d.sections, n ∉ s.range := by
  simp [sectionAt?]

theorem mem_of_sectionAt? {s : Section} (h : d.sectionAt? n = some s) :
    s ∈ d.sections ∧ n ∈ s.range := by
  refine ⟨List.mem_of_find?_eq_some h, ?_⟩
  have := List.find?_some h
  exact of_decide_eq_true this

theorem sectionAt?_eq {before after : List Section} {target : Section}
    (hd : d.sections = before ++ target :: after) (hb : ∀ s ∈ before, n ∉ s.range)
    (ht : n ∈ target.range) : d.sectionAt? n = some target := by
  rw [sectionAt?, hd, List.find?_append, List.find?_eq_none.2 (by simpa using hb), Option.none_or,
    List.find?_cons_of_pos (by simpa using ht)]

theorem owner_eq {before after : List Section} {target : Section}
    (hd : d.sections = before ++ target :: after) (hb : ∀ s ∈ before, n ∉ s.range)
    (ht : n ∈ target.range) : d.owner n = .ok target := by
  rw [owner, sectionAt?_eq hd hb ht]

theorem owner_outside (h : ∀ s ∈ d.sections, n ∉ s.range) :
    d.owner n = failFor (.lineOutsideDocument n d.lastLine) := by
  rw [owner, sectionAt?_eq_none_iff.2 h]

/-! ## Changing a line -/

/-- Changes the line `n` in the first section that holds it. -/
def modifyLine (n : Int) (f : String → String) : List Section → List Section
  | [] => []
  | s :: rest => if n ∈ s.range then s.modifyLine n f :: rest else s :: modifyLine n f rest

theorem replaceAt_modifyLine {l : List Section} {s : Section} (f : String → String)
    (h : (l.find? fun t => n ∈ t.range) = some s) :
    replaceAt n (s.modifyLine n f) l = modifyLine n f l := by
  induction l with
  | nil => cases h
  | cons t l ih =>
    rw [replaceAt, modifyLine]
    by_cases ht : n ∈ t.range
    · rw [List.find?_cons_of_pos (by simpa using ht), Option.some.injEq] at h
      rw [if_pos ht, if_pos ht, h]
    · rw [List.find?_cons_of_neg (by simpa using ht)] at h
      rw [if_neg ht, if_neg ht, ih h]

/-- The section that is found has the line, so changing it there does not fail. -/
theorem update_of_sectionAt? {s : Section} (h : d.sectionAt? n = some s) (f : String → String) :
    d.update n f = .ok { d with sections := modifyLine n f d.sections } := by
  have howner : d.owner n = .ok s := by rw [owner, h]
  have hupdate : s.update n f = .ok (s.modifyLine n f) := if_pos (mem_of_sectionAt? h).2
  rw [update, howner]
  show (s.update n f >>= _) = _
  rw [hupdate, ← replaceAt_modifyLine f h]
  rfl

theorem modifyLine_eq {before after : List Section} {target : Section} {f : String → String}
    (hb : ∀ s ∈ before, n ∉ s.range) (ht : n ∈ target.range) :
    modifyLine n f (before ++ target :: after) = before ++ target.modifyLine n f :: after := by
  induction before with
  | nil => rw [List.nil_append, modifyLine, if_pos ht]; rfl
  | cons s before ih =>
    rw [List.cons_append, modifyLine, if_neg (hb s List.mem_cons_self),
      ih fun t h => hb t (List.mem_cons_of_mem _ h), List.cons_append]

theorem update_eq {before after : List Section} {target : Section}
    (hd : d.sections = before ++ target :: after) (hb : ∀ s ∈ before, n ∉ s.range)
    (ht : n ∈ target.range) (f : String → String) :
    d.update n f = .ok { d with sections := before ++ target.modifyLine n f :: after } := by
  rw [update_of_sectionAt? (sectionAt?_eq hd hb ht), hd, modifyLine_eq hb ht]

theorem update_outside (h : ∀ s ∈ d.sections, n ∉ s.range) (f : String → String) :
    d.update n f = failFor (.lineOutsideDocument n d.lastLine) := by
  rw [update, owner_outside h]
  rfl

/-! ## Assembling -/

theorem assemble_of_ordered {base : Option String} {l : List Section} (h : Ordered l) :
    assemble base l = .ok ⟨base, l⟩ := by
  rw [assemble, inOrder_of_ordered h, firstOverlap_eq_none_iff.2 h]

theorem assemble_eq_ok {base : Option String} {l : List Section} :
    assemble base l = .ok d ↔ l.Pairwise Disjoint ∧ d = ⟨base, inOrder l⟩ := by
  rw [← ordered_inOrder_iff, ← firstOverlap_eq_none_iff, assemble]
  cases h : firstOverlap (inOrder l) with
  | none => exact ⟨fun h => ⟨rfl, (Except.ok.inj h).symm⟩, fun h => by rw [h.2]⟩
  | some p => exact ⟨fun h => (by cases h), fun h => (by cases h.1)⟩

/-! ## Inserting -/

theorem insert_eq {before after : List Section} {target : Section}
    (hd : inOrder d.sections = before ++ target :: after) (hb : ∀ s ∈ before, n ∉ s.range)
    (ht : n ∈ target.range) (s : Section) :
    d.insert s n = target.split n >>= fun parts =>
      d.withSections (splice before parts.1 s parts.2 after) := by
  rw [insert, partition, hd, partitionAt_eq hb ht]
  rfl

theorem insert_outside (h : ∀ s ∈ d.sections, n ∉ s.range) (s : Section) :
    d.insert s n = failFor (.insertOutside n) := by
  have h' : ∀ t ∈ inOrder d.sections, n ∉ t.range :=
    fun t ht => h t ((inOrder_perm _).mem_iff.1 ht)
  rw [insert, partition, partitionAt_of_forall_not_mem h']

/-- **Insertion into an ordered document** fails just where the cut fails. -/
theorem insert_of_ordered {before after : List Section} {target : Section}
    (hd : d.sections = before ++ target :: after) (ho : Ordered d.sections) (ht : n ∈ target.range)
    (s : Section) :
    d.insert s n = (target.split n).map fun parts =>
      { d with sections := splice before parts.1 s parts.2 after } := by
  have ho' : Ordered (before ++ target :: after) := hd ▸ ho
  rw [insert_eq ((inOrder_of_ordered ho).trans hd) (ho'.not_mem_of_mem ht).1 ht]
  cases hc : target.split n with
  | error e => rfl
  | ok parts => exact assemble_of_ordered (ho'.splice hc s)

/-- **What a successful insertion did.** The sections had no overlap, one of them held the line, and
the document is what the cut and the moves make of them. -/
theorem insert_eq_ok {d' : Document} {s : Section} (h : d.insert s n = .ok d') :
    ∃ before target after upper lower, inOrder d.sections = before ++ target :: after ∧
      Ordered (before ++ target :: after) ∧ n ∈ target.range ∧
      target.split n = .ok (upper, lower) ∧
      d' = { d with sections := splice before upper s lower after } := by
  rcases exists_split_at n (inOrder d.sections) with hout | ⟨before, target, after, hd, hb, ht⟩
  · rw [insert, partition, partitionAt_of_forall_not_mem hout] at h
    cases h
  · rw [insert_eq hd hb ht] at h
    cases hc : target.split n with
    | error e => rw [hc] at h; cases h
    | ok parts =>
      obtain ⟨upper, lower⟩ := parts
      rw [hc] at h
      obtain ⟨hdis, rfl⟩ := assemble_eq_ok.1 h
      have ho := ordered_of_splice (hd ▸ inOrder_sorted d.sections) hc hdis
      exact ⟨before, target, after, upper, lower, hd, ho, ht, hc, by
        rw [inOrder_of_ordered (ho.splice hc s)]⟩

end Document

end Patchwork
