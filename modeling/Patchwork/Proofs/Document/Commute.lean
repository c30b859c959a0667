import Patchwork.Proofs.Document.Insertion

/-!
# Insertions in either order

Two sections are inserted at two lines of an ordered document. Done from below, both go in at the
lines they were meant for; done from above, the lower one has to go in as many lines further down as
the upper one has. Either way the document is the same, down to the offsets (`insert_comm_of_lt`):
what the first insertion moves is cut and spliced where it has been moved to (`map_shift_splice`). The
two lines stand in different sections or in one (`Document.InnerPair`), and each of these has its own
equation.

The two orders do not fail alike. Lines that follow each other in one section are both inner lines of
it, and still are when the upper one has been cut, because the lower one does not begin the part that
is left below. But cutting at the lower one first leaves the upper one as the last line of its part,
where no section goes in.
-/

namespace Patchwork

namespace Section

variable {s : Section} {i j : Int}

/-- A cut below leaves an inner line inner, except for the line right above the cut. -/
theorem inner_before_iff (hj : s.range.first < j ∧ j ≤ s.range.last) :
    (s.before j hj).Inner i ↔ s.range.first < i ∧ i < j - 1 := Iff.rfl

theorem inner_since_iff (hi : s.range.first < i ∧ i ≤ s.range.last) :
    (s.since i hi).Inner j ↔ i < j ∧ j < s.range.last := Iff.rfl

theorem inner_shift_iff {k n : Int} : (s.shift k).Inner (n + k) ↔ s.Inner n := by
  simp only [Inner, range_shift, LineRange.first_shift, LineRange.last_shift]
  omega

theorem Inner.shift (h : s.Inner j) (k : Int) : (s.shift k).Inner (j + k) := inner_shift_iff.2 h

/-! ## Splices in lists of sections -/

theorem splice_append (l before : List Section) (upper s lower : Section) (after : List Section) :
    splice (l ++ before) upper s lower after = l ++ splice before upper s lower after :=
  List.append_assoc l before _

/-- Sections that are moved after a splice could have been moved before it. -/
theorem map_shift_splice (before after : List Section) {target : Section} (h : target.Inner j)
    (s : Section) (k : Int) :
    (splice before (target.before j h.bounds) s (target.since j h.bounds) after).map (·.shift k) =
      splice (before.map (·.shift k)) ((target.shift k).before (j + k) (h.shift k).bounds) s
        ((target.shift k).since (j + k) (h.shift k).bounds) (after.map (·.shift k)) := by
  have hswap : ∀ t : Section, (t.shift s.size).shift k = (t.shift k).shift s.size := by
    intro t
    rw [shift_shift, shift_shift, Int.add_comm]
  have hinserted : (s.shift ((target.before j h.bounds).range.last - s.range.first + 1)).shift k =
      s.shift ((target.before j h.bounds).range.last + k - s.range.first + 1) := by
    rw [shift_shift]
    congr 1
    omega
  rw [before_shift h.bounds, since_shift h.bounds]
  simp only [splice, List.map_append, List.map_cons, List.map_map, Function.comp_def, hswap,
    hinserted, range_shift, LineRange.last_shift]

variable {before after : List Section} {target t : Section}

/-- A section with an inner line above the splice was there before it, or is the upper part of the
cut. -/
theorem mem_splice_above (ho : Ordered (before ++ target :: after)) (h : target.Inner j) (hij : i < j)
    (hi : t.Inner i) {s : Section}
    (ht : t ∈ splice before (target.before j h.bounds) s (target.since j h.bounds) after) :
    t ∈ before ∨ t = target.before j h.bounds := by
  have hlow : ∀ u ∈ target.since j h.bounds :: after, j ≤ u.range.first := by
    obtain ⟨-, hta, -⟩ := List.pairwise_append.1 ho
    refine List.forall_mem_cons.2 ⟨Int.le_refl j, fun u hu => ?_⟩
    have := (List.pairwise_cons.1 hta).1 u hu
    have := h.2
    omega
  have hfirst := hi.1
  rcases List.mem_append.1 ht with ht | ht
  · exact Or.inl ht
  rcases List.mem_cons.1 ht with ht | ht
  · exact Or.inr ht
  exfalso
  rcases List.mem_cons.1 ht with rfl | ht
  · have hplace : (target.before j h.bounds).range.last = j - 1 := rfl
    simp only [range_shift, LineRange.first_shift] at hfirst
    omega
  · obtain ⟨u, hu, rfl⟩ := List.mem_map.1 ht
    have := hlow u hu
    simp only [range_shift, LineRange.first_shift] at hfirst
    omega

/-- A section with an inner line below the splice has been moved, with those after the cut. -/
theorem mem_splice_below (ho : Ordered (before ++ target :: after)) (h : target.Inner i) (hij : i < j)
    {s : Section} (hj : t.Inner (j + s.size))
    (ht : t ∈ splice before (target.before i h.bounds) s (target.since i h.bounds) after) :
    ∃ u ∈ target.since i h.bounds :: after, u.Inner j := by
  obtain ⟨-, -, hb⟩ := List.pairwise_append.1 ho
  have hlast := hj.2
  rcases List.mem_append.1 ht with ht | ht
  · exfalso
    have := hb t ht target List.mem_cons_self
    have := h.1
    omega
  rcases List.mem_cons.1 ht with rfl | ht
  · exfalso
    have hplace : (target.before i h.bounds).range.last = i - 1 := rfl
    omega
  rcases List.mem_cons.1 ht with rfl | ht
  · exfalso
    have hplace : (target.before i h.bounds).range.last = i - 1 := rfl
    have := s.last_eq
    simp only [range_shift, LineRange.last_shift] at hlast
    omega
  · obtain ⟨u, hu, rfl⟩ := List.mem_map.1 ht
    exact ⟨u, hu, inner_shift_iff.1 hj⟩

end Section

namespace Document

open Section

variable {d d' : Document} {i j : Int}

/-- What a successful insertion into an ordered document did. -/
theorem insert_eq_ok_of_ordered (ho : Ordered d.sections) {s : Section} {n : Int}
    (h : d.insert s n = .ok d') : ∃ before target after, d.sections = before ++ target :: after ∧
      ∃ hn : target.Inner n, d' = { d with
        sections := splice before (target.before n hn.bounds) s (target.since n hn.bounds) after } := by
  obtain ⟨before, target, after, upper, lower, hd, -, -, hc, rfl⟩ := insert_eq_ok h
  rw [inOrder_of_ordered ho] at hd
  obtain ⟨hn, rfl, rfl⟩ := split_eq_ok.1 hc
  exact ⟨before, target, after, hd, hn, rfl⟩

/-! ## One after the other -/

section Twice

variable {before after : List Section} {upper : Section}

/-- The upper one goes in first, at `i`, and the lower one into a section that has been moved. -/
theorem insert_insert_below {rest between : List Section} {lower : Section}
    (hd : d.sections = before ++ upper :: rest) (ho : Ordered d.sections) (hi : upper.Inner i)
    (hrest : upper.since i hi.bounds :: rest = between ++ lower :: after) (hj : lower.Inner j)
    (a b : Section) :
    (d.insert a i >>= fun d₁ => d₁.insert b (j + a.size)) = .ok { d with
      sections := before ++ upper.before i hi.bounds :: a.shift (i - 1 - a.range.first + 1) ::
        (splice between (lower.before j hj.bounds) b (lower.since j hj.bounds) after).map
          (·.shift a.size) } := by
  have ho₁ := (hd ▸ ho).splice (split_of_inner hi) a
  have hd₁ : splice before (upper.before i hi.bounds) a (upper.since i hi.bounds) rest =
      (before ++ upper.before i hi.bounds :: a.shift (i - 1 - a.range.first + 1) ::
        between.map (·.shift a.size)) ++ lower.shift a.size :: after.map (·.shift a.size) := by
    rw [splice, hrest]
    simp only [List.map_append, List.map_cons, List.append_assoc, List.cons_append]
    rfl
  rw [insert_of_inner hd ho hi a]
  refine (insert_of_inner hd₁ ho₁ (hj.shift a.size) b).trans ?_
  rw [map_shift_splice between after hj b a.size, splice_append]
  rfl

/-- The lower one goes in first, at `j`, and the upper one into another section. -/
theorem insert_insert_apart {between : List Section} {lower : Section}
    (hd : d.sections = before ++ upper :: (between ++ lower :: after)) (ho : Ordered d.sections)
    (hi : upper.Inner i) (hj : lower.Inner j) (a b : Section) :
    (d.insert b j >>= fun d₁ => d₁.insert a i) = .ok { d with
      sections := splice before (upper.before i hi.bounds) a (upper.since i hi.bounds)
        (splice between (lower.before j hj.bounds) b (lower.since j hj.bounds) after) } := by
  have hd' : d.sections = (before ++ upper :: between) ++ lower :: after := by simp [hd]
  have ho₁ := (hd' ▸ ho).splice (split_of_inner hj) b
  have hd₁ : splice (before ++ upper :: between) (lower.before j hj.bounds) b
      (lower.since j hj.bounds) after = before ++ upper ::
        splice between (lower.before j hj.bounds) b (lower.since j hj.bounds) after := by
    rw [splice_append, splice, splice, List.cons_append]
  rw [insert_of_inner hd' ho hj b]
  exact insert_of_inner hd₁ ho₁ hi a

/-- The lower one goes in first, and both were meant for one section: the upper one goes into what
is above the cut, as long as a line is left below it there. -/
theorem insert_insert_within (hd : d.sections = before ++ upper :: after) (ho : Ordered d.sections)
    (hi : upper.Inner i) (hj : (upper.since i hi.bounds).Inner j) (hij : i + 1 < j) (a b : Section) :
    (d.insert b j >>= fun d₁ => d₁.insert a i) = .ok { d with
      sections := before ++ upper.before i hi.bounds :: a.shift (i - 1 - a.range.first + 1) ::
        (splice [] ((upper.since i hi.bounds).before j hj.bounds) b
          ((upper.since i hi.bounds).since j hj.bounds) after).map (·.shift a.size) } := by
  have hj' : upper.Inner j := ⟨Int.lt_trans hi.1 hj.1, hj.2⟩
  have hi' : (upper.before j hj'.bounds).Inner i :=
    (inner_before_iff hj'.bounds).2 ⟨hi.1, by omega⟩
  have ho₁ := (hd ▸ ho).splice (split_of_inner hj') b
  have hd₁ : splice before (upper.before j hj'.bounds) b (upper.since j hj'.bounds) after =
      before ++ upper.before j hj'.bounds :: b.shift (j - 1 - b.range.first + 1) ::
        (upper.since j hj'.bounds :: after).map (·.shift b.size) := rfl
  rw [insert_of_inner hd ho hj' b]
  refine (insert_of_inner hd₁ ho₁ hi' a).trans ?_
  rw [before_before hi.bounds hj'.bounds, since_before hi.bounds hj'.bounds hi'.bounds hj.bounds,
    since_since hi.bounds hj'.bounds]
  rfl

/-- The lower one goes in first, right below the line meant for the upper one, which is then the last
line of its section. -/
theorem insert_insert_adjacent (hd : d.sections = before ++ upper :: after)
    (ho : Ordered d.sections) (hi : upper.Inner i) (hj : upper.Inner (i + 1)) (a b : Section) :
    ∃ d₁, d.insert b (i + 1) = .ok d₁ ∧ d₁.insert a i = failFor (.splitAtLast i) := by
  have ho₁ := (hd ▸ ho).splice (split_of_inner hj) b
  have hd₁ : splice before (upper.before (i + 1) hj.bounds) b (upper.since (i + 1) hj.bounds) after =
      before ++ upper.before (i + 1) hj.bounds :: b.shift (i + 1 - 1 - b.range.first + 1) ::
        (upper.since (i + 1) hj.bounds :: after).map (·.shift b.size) := rfl
  have hlast : i = (upper.before (i + 1) hj.bounds).range.last := by
    show i = i + 1 - 1
    omega
  have hmem : i ∈ (upper.before (i + 1) hj.bounds).range :=
    LineRange.mem_iff.2 ⟨Int.le_of_lt hi.1, Int.le_of_eq hlast⟩
  refine ⟨_, insert_of_inner hd ho hj b, (insert_of_ordered hd₁ ho₁ hmem a).trans ?_⟩
  rw [(split_of_edge hmem).2.2 (hlast ▸ hi.1) hlast]
  rfl

end Twice

/-! ## Both orders -/

/-- The lines follow each other in one section. -/
def Adjacent (d : Document) (i j : Int) : Prop :=
  j = i + 1 ∧ ∃ t ∈ d.sections, i ∈ t.range ∧ j ∈ t.range

instance (d : Document) (i j : Int) : Decidable (d.Adjacent i j) :=
  inferInstanceAs (Decidable (j = i + 1 ∧ ∃ t ∈ d.sections, i ∈ t.range ∧ j ∈ t.range))

section Orders

variable {before after : List Section} {upper : Section}

theorem not_adjacent_of_apart {between : List Section} {lower : Section}
    (hd : d.sections = before ++ upper :: (between ++ lower :: after)) (ho : Ordered d.sections)
    (hi : upper.Inner i) (hj : lower.Inner j) : ¬d.Adjacent i j := by
  rintro ⟨-, t, ht, hit, hjt⟩
  have ho' : Ordered (before ++ upper :: (between ++ lower :: after)) := hd ▸ ho
  obtain ⟨hb, ha⟩ := ho'.not_mem_of_mem hi.mem
  rcases List.mem_append.1 (hd ▸ ht) with ht | ht
  · exact hb t ht hit
  rcases List.mem_cons.1 ht with rfl | ht
  · obtain ⟨-, hta, -⟩ := List.pairwise_append.1 ho'
    have := (List.pairwise_cons.1 hta).1 lower (by simp)
    have := (LineRange.mem_iff.1 hjt).2
    have := hj.1
    omega
  · exact ha t ht hit

/-- In different sections the order makes no difference. -/
theorem insert_comm_apart {between : List Section} {lower : Section}
    (hd : d.sections = before ++ upper :: (between ++ lower :: after)) (ho : Ordered d.sections)
    (hi : upper.Inner i) (hj : lower.Inner j) (a b : Section) :
    (d.insert b j >>= fun d₁ => d₁.insert a i) =
      d.insert a i >>= fun d₁ => d₁.insert b (j + a.size) := by
  have hrest : upper.since i hi.bounds :: (between ++ lower :: after) =
      (upper.since i hi.bounds :: between) ++ lower :: after := rfl
  rw [insert_insert_apart hd ho hi hj a b, insert_insert_below hd ho hi hrest hj a b]
  rfl

/-- In one section the order makes no difference either if there is a line between the two. -/
theorem insert_comm_within (hd : d.sections = before ++ upper :: after) (ho : Ordered d.sections)
    (hi : upper.Inner i) (hj : upper.Inner j) (hij : i + 1 < j) (a b : Section) :
    (d.insert b j >>= fun d₁ => d₁.insert a i) =
      d.insert a i >>= fun d₁ => d₁.insert b (j + a.size) := by
  have hj' : (upper.since i hi.bounds).Inner j :=
    (inner_since_iff hi.bounds).2 ⟨by omega, hj.2⟩
  have hrest : upper.since i hi.bounds :: after = [] ++ upper.since i hi.bounds :: after := rfl
  rw [insert_insert_within hd ho hi hj' hij a b, insert_insert_below hd ho hi hrest hj' a b]

end Orders

/-! ## Where the two lines stand -/

/-- Both lines are inner lines, the first of them in a section above, or both in one section. -/
inductive InnerPair (d : Document) (i j : Int) : Prop
  | apart {before between after : List Section} {upper lower : Section}
      (hd : d.sections = before ++ upper :: (between ++ lower :: after))
      (hi : upper.Inner i) (hj : lower.Inner j)
  | within {before after : List Section} {target : Section}
      (hd : d.sections = before ++ target :: after)
      (hi : target.Inner i) (hj : target.Inner j)

namespace InnerPair

/-- What the lower insertion leaves for the upper one is not a line right above it. -/
theorem of_insert_above (ho : Ordered d.sections) (hij : i < j) {d₁ : Document} {a b : Section}
    (hb : d.insert b j = .ok d₁) (ha : d₁.insert a i = .ok d') :
    d.InnerPair i j ∧ ¬d.Adjacent i j := by
  obtain ⟨before, lower, after, hd, hj, rfl⟩ := insert_eq_ok_of_ordered ho hb
  have ho' : Ordered (before ++ lower :: after) := hd ▸ ho
  obtain ⟨before₁, upper, after₁, hd₁, hi, -⟩ :=
    insert_eq_ok_of_ordered (ho'.splice (split_of_inner hj) b) ha
  have hmem := hd₁ ▸ List.mem_append_right before₁ (List.mem_cons_self (a := upper) (l := after₁))
  rcases mem_splice_above ho' hj hij hi hmem with hu | rfl
  · obtain ⟨before, between, rfl⟩ := List.append_of_mem hu
    rw [List.append_assoc, List.cons_append] at hd
    exact ⟨.apart hd hi hj, not_adjacent_of_apart hd ho hi hj⟩
  · obtain ⟨hfirst, hlast⟩ := (inner_before_iff hj.bounds).1 hi
    refine ⟨.within hd ⟨hfirst, Int.lt_trans hij hj.2⟩ hj, fun hadjacent => ?_⟩
    have := hadjacent.1
    omega

theorem of_insert_below (ho : Ordered d.sections) (hij : i < j) {d₁ : Document} {a b : Section}
    (ha : d.insert a i = .ok d₁) (hb : d₁.insert b (j + a.size) = .ok d') : d.InnerPair i j := by
  obtain ⟨before, upper, after, hd, hi, rfl⟩ := insert_eq_ok_of_ordered ho ha
  have ho' : Ordered (before ++ upper :: after) := hd ▸ ho
  obtain ⟨before₁, moved, after₁, hd₁, hj₁, -⟩ :=
    insert_eq_ok_of_ordered (ho'.splice (split_of_inner hi) a) hb
  have hmem := hd₁ ▸ List.mem_append_right before₁ (List.mem_cons_self (a := moved) (l := after₁))
  obtain ⟨lower, hl, hj⟩ := mem_splice_below ho' hi hij hj₁ hmem
  rcases List.mem_cons.1 hl with rfl | hl
  · obtain ⟨hij, hlast⟩ := (inner_since_iff hi.bounds).1 hj
    exact .within hd hi ⟨Int.lt_trans hi.1 hij, hlast⟩
  · obtain ⟨between, after, rfl⟩ := List.append_of_mem hl
    exact .apart hd hi hj

theorem insert_comm (h : d.InnerPair i j) (ho : Ordered d.sections) (hij : i < j)
    (hnot : ¬d.Adjacent i j) (a b : Section) :
    (d.insert b j >>= fun d₁ => d₁.insert a i) =
      d.insert a i >>= fun d₁ => d₁.insert b (j + a.size) := by
  cases h with
  | apart hd hi hj => exact insert_comm_apart hd ho hi hj a b
  | within hd hi hj =>
    have hgap : j ≠ i + 1 := fun hnext => hnot ⟨hnext, _, by simp [hd], hi.mem, hj.mem⟩
    exact insert_comm_within hd ho hi hj (by omega) a b

theorem refused (h : d.InnerPair i j) (ho : Ordered d.sections) (hadjacent : d.Adjacent i j)
    (a b : Section) : ∃ d₁, d.insert b j = .ok d₁ ∧ d₁.insert a i = failFor (.splitAtLast i) := by
  cases h with
  | apart hd hi hj => exact absurd hadjacent (not_adjacent_of_apart hd ho hi hj)
  | within hd hi hj =>
    obtain rfl := hadjacent.1
    exact insert_insert_adjacent hd ho hi hj a b

end InnerPair

/-- **Insertions commute.** If a section goes in at one line and then another at a line above it, it
does so in the other order, at as many lines further down as the upper section has, and the documents
are equal. If they go in in this other order, they go in in the first and make the same document,
unless the lines follow each other in one section: then the upper one is refused there. -/
theorem insert_comm_of_lt (ho : Ordered d.sections) (a b : Section) (hij : i < j) :
    (∀ d', (d.insert b j >>= fun d₁ => d₁.insert a i) = .ok d' →
      (d.insert a i >>= fun d₁ => d₁.insert b (j + a.size)) = .ok d') ∧
    ∀ d', (d.insert a i >>= fun d₁ => d₁.insert b (j + a.size)) = .ok d' →
      (¬d.Adjacent i j → (d.insert b j >>= fun d₁ => d₁.insert a i) = .ok d') ∧
      (d.Adjacent i j → ∃ d₁ e, d.insert b j = .ok d₁ ∧ d₁.insert a i = .error e ∧
        e.kind? = some .range) := by
  constructor
  · intro d' h
    obtain ⟨d₁, hb, ha⟩ := bind_eq_ok.1 h
    obtain ⟨hpair, hnot⟩ := InnerPair.of_insert_above ho hij hb ha
    exact (hpair.insert_comm ho hij hnot a b).symm.trans h
  · intro d' h
    obtain ⟨d₁, ha, hb⟩ := bind_eq_ok.1 h
    have hpair := InnerPair.of_insert_below ho hij ha hb
    refine ⟨fun hnot => (hpair.insert_comm ho hij hnot a b).trans h, fun hadjacent => ?_⟩
    obtain ⟨d₂, hb₂, ha₂⟩ := hpair.refused ho hadjacent a b
    exact ⟨d₂, _, hb₂, ha₂, rfl⟩

end Document

namespace Sample

/-- A single line. -/
def graft : Section := ⟨"g", ⟨1, 1, by decide⟩, ["g1"], 0, rfl, by decide⟩

end Sample

/-- Lines 3 and 8 are in different sections, and the order does not matter; lines 7 and 8 follow each
other in one, and only the upper one first will do. -/
theorem insert_comm_gapped : Section.Ordered Sample.gapped.sections ∧
    (∃ d, (Sample.gapped.insert Sample.graft 8 >>= fun d₁ => d₁.insert Sample.patch 3) = .ok d ∧
      (Sample.gapped.insert Sample.patch 3 >>= fun d₁ => d₁.insert Sample.graft 10) = .ok d) ∧
    (∃ d, (Sample.gapped.insert Sample.patch 7 >>= fun d₁ => d₁.insert Sample.graft 10) = .ok d) ∧
    ∃ d₁ e, Sample.gapped.insert Sample.graft 8 = .ok d₁ ∧ d₁.insert Sample.patch 7 = .error e ∧
      e.kind? = some .range := by
  have hboth : ∃ d, (Sample.gapped.insert Sample.graft 8 >>= fun d₁ =>
      d₁.insert Sample.patch 3) = .ok d := ⟨_, rfl⟩
  have hupper : ∃ d, (Sample.gapped.insert Sample.patch 7 >>= fun d₁ =>
      d₁.insert Sample.graft 10) = .ok d := ⟨_, rfl⟩
  obtain ⟨d, hd⟩ := hboth
  obtain ⟨d', hd'⟩ := hupper
  obtain ⟨hapart, -⟩ := Document.insert_comm_of_lt Sample.ordered_gapped Sample.patch Sample.graft
    (by decide : (3 : Int) < 8)
  obtain ⟨-, hnext⟩ := Document.insert_comm_of_lt Sample.ordered_gapped Sample.patch Sample.graft
    (by decide : (7 : Int) < 8)
  exact ⟨Sample.ordered_gapped, ⟨d, hd, hapart d hd⟩, ⟨d', hd'⟩, (hnext d' hd').2 (by decide)⟩

end Patchwork
