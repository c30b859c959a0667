import Patchwork.Proofs.Document.Overlap

/-!
# Looking lines up

There are several ways to the section that holds a line: the first one among the stored sections,
the target of a partition, and a list of the sections under their ranges. In sections put together by
hand they may lead to different places. What has been assembled has no overlap, and then each of them
finds the one section there is, in whatever order it is given the sections
(`Document.LookupsAgree`, `Document.assemble_lookups`).
-/

namespace Patchwork

namespace Section

variable {l : List Section}

/-! ## Sections under their ranges -/

theorem listByRange_eq {listed : List (LineRange × Section)}
    (h : (listed.map (·.1) ++ l.map (·.range)).Nodup) :
    listByRange listed l = .ok (listed ++ l.map fun s => (s.range, s)) := by
  induction l generalizing listed with
  | nil => simp [listByRange]
  | cons s rest ih =>
    have hnew : s.range ∉ listed.map (·.1) := by
      intro hs
      exact (List.nodup_append.1 h).2.2 _ hs _ (by simp) rfl
    have hrest : ((listed ++ [(s.range, s)]).map (·.1) ++ rest.map (·.range)).Nodup := by
      simpa using h
    rw [listByRange, if_neg hnew, ih hrest]
    simp

/-- Ordered sections have different ranges, because ranges are not empty. -/
theorem Ordered.nodup_ranges (h : Ordered l) : (l.map (·.range)).Nodup := by
  apply List.pairwise_map.2
  apply h.imp
  intro s t hlt heq
  have := s.range.first_le_last
  rw [heq] at hlt this
  omega

theorem Ordered.byRange_of_perm {l' : List Section} (h : Ordered l) (hp : l'.Perm l) :
    byRange l' = .ok (l.map fun s => (s.range, s)) := by
  have hnodup : (([] : List (LineRange × Section)).map (·.1) ++ l.map (·.range)).Nodup :=
    h.nodup_ranges
  rw [byRange, h.inOrder_of_perm hp, listByRange_eq hnodup, List.nil_append]

end Section

namespace Document

open Section

/-- For the line `n` all ways to look it up lead to the same section of the document, or all to none:
a look at each section, a partition of `sections`, and the list `listed`, by its keys. A partition
that has a target leaves only sections above the line before it, and below the line after it. -/
structure LookupsAgree (d : Document) (sections : List Section) (listed : List (LineRange × Section))
    (n : Int) : Prop where
  holding : (d.sections.filter fun s => n ∈ s.range) = (d.sectionAt? n).toList
  target : (partition sections n).target = d.sectionAt? n
  stored : (listed.filter fun entry => n ∈ entry.1).map (·.2) = (d.sectionAt? n).toList
  parts : (partition sections n).before ++
    ((partition sections n).target.toList ++ (partition sections n).after) = d.sections
  above : (partition sections n).target.isSome →
    ∀ s ∈ (partition sections n).before, s.range.last < n
  below : (partition sections n).target.isSome →
    ∀ s ∈ (partition sections n).after, n < s.range.first

theorem lookupsAgree_of_ordered {d : Document} {sections : List Section} (h : Ordered d.sections)
    (hp : sections.Perm d.sections) (n : Int) :
    d.LookupsAgree sections (d.sections.map fun s => (s.range, s)) n := by
  have hpartition : partition sections n = partitionAt n d.sections := by
    rw [partition, h.inOrder_of_perm hp]
  have haround : (partition sections n).target.isSome →
      (∀ s ∈ (partition sections n).before, s.range.last < n) ∧
        ∀ s ∈ (partition sections n).after, n < s.range.first := by
    intro hsome
    obtain ⟨target, htarget⟩ := Option.isSome_iff_exists.1 hsome
    rw [hpartition] at htarget ⊢
    exact h.around htarget
  constructor
  case holding => exact h.filter_eq n
  case target => rw [hpartition, target_partitionAt, sectionAt?]
  case stored =>
    simp only [List.filter_map, List.map_map, Function.comp_def, List.map_id']
    exact h.filter_eq n
  case parts => rw [hpartition, partitionAt_append]
  case above => exact fun hsome => (haround hsome).1
  case below => exact fun hsome => (haround hsome).2

/-- **Sections without overlap can be assembled, and then looked up in any way.** Sections are
assembled just if no two have a line in common, and are refused for an overlap otherwise. The document
has the given sections in the order of their ranges, in whatever order they were given. Its sections,
again in any order, can be listed under their ranges, and for every line all look-ups agree. -/
theorem assemble_lookups (base : Option String) (l : List Section) :
    ((∃ d, assemble base l = .ok d) ↔ l.Pairwise Section.Disjoint) ∧
      (¬l.Pairwise Section.Disjoint →
        ∃ e, assemble base l = .error e ∧ e.kind? = some .construction) ∧
      ∀ d, assemble base l = .ok d →
        d.base = base ∧ d.sections.Perm l ∧ Sorted d.sections ∧
        (∀ l', l'.Perm l → assemble base l' = .ok d) ∧
        ∀ sections, sections.Perm d.sections →
          ∃ listed, byRange sections = .ok listed ∧ ∀ n, d.LookupsAgree sections listed n := by
  refine ⟨exists_assemble_iff, fun hoverlap => ?_, fun d hd => ?_⟩
  · cases he : assemble base l with
    | ok d => exact absurd (exists_assemble_iff.1 ⟨d, he⟩) hoverlap
    | error e =>
      obtain ⟨s, t, rfl⟩ := cause_of_assemble he
      exact ⟨_, rfl, rfl⟩
  · obtain ⟨hdisjoint, rfl⟩ := assemble_eq_ok.1 hd
    have hordered : Ordered (inOrder l) := ordered_inOrder_iff.2 hdisjoint
    refine ⟨rfl, inOrder_perm l, inOrder_sorted l, fun l' hp => ?_, fun sections hp => ?_⟩
    · have hl' : inOrder l' = inOrder l :=
        hordered.inOrder_of_perm (hp.trans (inOrder_perm l).symm)
      apply assemble_eq_ok.2
      exact ⟨(hp.pairwise_iff Section.Disjoint.symm).2 hdisjoint, by rw [hl']⟩
    · exact ⟨_, hordered.byRange_of_perm hp, lookupsAgree_of_ordered hordered hp⟩

end Document

open Section Document in
/-- The trunk and a section above it are assembled in either order. Line 3 is found in the one, line 5
in neither, and line 11 in the other, with the first above it. With a section inside of the trunk
they are refused. -/
theorem assemble_lookups_unsorted :
    (∃ e, assemble none Sample.overlapping.sections = .error e ∧ e.kind? = some .construction) ∧
      ∃ d, assemble none [Sample.trunk, Sample.head] = .ok d ∧
        assemble none [Sample.head, Sample.trunk] = .ok d ∧
        ∃ listed, byRange [Sample.trunk, Sample.head] = .ok listed ∧
          d.LookupsAgree [Sample.trunk, Sample.head] listed 3 ∧
          d.LookupsAgree [Sample.trunk, Sample.head] listed 5 ∧
          d.LookupsAgree [Sample.trunk, Sample.head] listed 11 ∧
          d.sectionAt? 3 = some Sample.head ∧ d.sectionAt? 5 = none ∧
          d.sectionAt? 11 = some Sample.trunk := by
  have hoverlap : ¬Sample.overlapping.sections.Pairwise Section.Disjoint := by
    unfold Section.Disjoint
    decide
  have hdisjoint : [Sample.trunk, Sample.head].Pairwise Section.Disjoint := by
    unfold Section.Disjoint
    decide
  obtain ⟨-, hrefused, -⟩ := assemble_lookups none Sample.overlapping.sections
  obtain ⟨haccepted, -, hassembled⟩ := assemble_lookups none [Sample.trunk, Sample.head]
  obtain ⟨d, hd⟩ := haccepted.2 hdisjoint
  obtain ⟨-, hperm, -, hagain, hlookups⟩ := hassembled d hd
  obtain ⟨listed, hlisted, hagree⟩ := hlookups _ hperm.symm
  refine ⟨hrefused hoverlap, d, hd, hagain _ (.swap _ _ _), listed, hlisted, hagree 3, hagree 5,
    hagree 11, ?_⟩
  obtain rfl := Except.ok.inj hd
  exact ⟨rfl, rfl, rfl⟩

end Patchwork
