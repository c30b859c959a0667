import Patchwork.Proofs.Section.Entry

/-!
# Pieces of a section

A line of a section has three numbers: one in the document, one in the source, and its index among
the lines of the section. The first two agree in a section that holds the whole of a source. Moving a
section changes the first number of its lines, cutting it changes the third, and neither changes the
second. So a piece that any moves and cuts have made of a section (`Section.Piece`) gives at each of
its lines what the section gives at the line with the same number in the source
(`Section.TakenFrom`), and the laws of moving and cutting hold for sections with any history
(`Section.laws_of_valid`).

The type of sections sees to it that a piece has one line of text for each line of its range.
`Section.Valid` says that the checks made when a section is put together accept its parts; besides,
these refuse a range that is too long to be counted.
-/

namespace Patchwork

/-! ## Errors about moved lines -/

/-- The cause as it reads once the lines it speaks of have been moved down by `a`. -/
def Cause.moved (a : Int) : Cause → Cause
  | unresolvedLine n r => unresolvedLine (n + a) (r.shift a)
  | lineOutsideSection n r => lineOutsideSection (n + a) (r.shift a)
  | splitOfOneLine r => splitOfOneLine (r.shift a)
  | splitOutside n r => splitOutside (n + a) (r.shift a)
  | splitAtFirst n => splitAtFirst (n + a)
  | splitAtLast n => splitAtLast (n + a)
  | cause => cause

/-- The error with the line numbers of its cause moved down by `a`. -/
def Error.moved (a : Int) : Error → Error
  | reported cause span => reported (cause.moved a) span
  | fault f => fault f

@[simp] theorem Error.kind?_moved (a : Int) (e : Error) : (e.moved a).kind? = e.kind? := by
  cases e with
  | reported cause span => cases cause <;> rfl
  | fault f => rfl

theorem mapError_kind?_moved {α : Type} (a : Int) (x : Except Error α) :
    (x.mapError (·.moved a)).mapError Error.kind? = x.mapError Error.kind? := by
  cases x with
  | ok y => rfl
  | error e => exact congrArg Except.error (e.kind?_moved a)

namespace Section

variable {s p upper lower : Section} {k : Int}

/-! ## Sections put together -/

/-- The section with the given bounds, lines and offset, if they fit together. -/
def ofBounds (path : String) (first last : Int) (lines : List String) (offset : Int) :
    Except Error Section :=
  match LineRange.ofBounds? first last with
  | some range => ofParts path range lines offset
  | none => failFor (.emptyRange first last)

/-- The parts of the section, put together, make the section. -/
def Valid (s : Section) : Prop :=
  ofBounds s.path s.range.first s.range.last s.lines s.offset = .ok s

theorem valid_iff : s.Valid ↔ s.size ≤ LineRange.sizeLimit := by
  have hrange : LineRange.ofBounds? s.range.first s.range.last = some s.range :=
    dif_pos s.range.first_le_last
  rw [Valid, ofBounds, hrange, size, s.length_lines]
  show ofParts s.path s.range s.lines s.offset = .ok s ↔ _
  unfold ofParts
  constructor
  · intro h
    by_contra hlimit
    rw [if_pos (Nat.not_le.1 hlimit)] at h
    cases h
  · intro hlimit
    rw [if_neg (Nat.not_lt.2 hlimit), dif_pos s.length_lines, dif_pos s.one_le_local]

theorem Valid.of_size_le (hs : s.Valid) (h : p.size ≤ s.size) : p.Valid :=
  valid_iff.2 (Nat.le_trans h (valid_iff.1 hs))

/-! ## Moved sections -/

/-- A moved section answers, or refuses to, as the section did before. -/
theorem lookup_shift (s : Section) (a n : Int) :
    (s.shift a).line (n + a) = (s.line n).mapError (·.moved a) ∧
      (s.shift a).resolve (n + a) = (s.resolve n).mapError (·.moved a) := by
  by_cases hn : n ∈ s.range
  · obtain ⟨x, -, hx⟩ := entryAt?_of_mem hn
    have hmoved : (s.shift a).entryAt? (n + a) = some (x, ⟨s.path, n + s.offset⟩) := by
      rw [entryAt?_shift, Int.add_sub_cancel, hx]
    obtain ⟨hline, hresolve⟩ := lookup_of_entryAt? hx
    obtain ⟨hline', hresolve'⟩ := lookup_of_entryAt? hmoved
    rw [hline, hline', hresolve, hresolve']
    exact ⟨rfl, rfl⟩
  · obtain ⟨hline, hresolve⟩ := lookup_of_not_mem hn
    obtain ⟨hline', hresolve'⟩ := lookup_of_not_mem (mt add_mem_range_shift.1 hn)
    rw [hline, hline', hresolve, hresolve']
    exact ⟨rfl, rfl⟩

/-- A moved section is cut, or refuses to be, as the section was before. -/
theorem split_shift (s : Section) (a k : Int) : (s.shift a).split (k + a) =
    ((s.split k).map (Prod.map (·.shift a) (·.shift a))).mapError (·.moved a) := by
  have hmem : k + a ∈ s.range.shift a ↔ k ∈ s.range := add_mem_range_shift
  unfold split isSplittable
  simp only [range_shift, LineRange.size_shift, LineRange.first_shift, LineRange.last_shift, hmem,
    Int.add_left_inj]
  split_ifs
  · rfl
  · rfl
  · show Except.ok _ = Except.ok (_, _)
    rw [before_shift, since_shift]
  · rfl
  · rfl

/-! ## Lines that keep their number in the source -/

/-- Every line of `p` is a line of `s`: the one with the same number in the source. -/
structure TakenFrom (p s : Section) : Prop where
  size_le : p.size ≤ s.size
  entry_eq : ∀ n, n ∈ p.range → p.entryAt? n = s.entryAt? (n + (p.offset - s.offset))

namespace TakenFrom

theorem refl (s : Section) : s.TakenFrom s where
  size_le := Nat.le_refl _
  entry_eq n _ := by rw [Int.sub_self, Int.add_zero]

theorem mem_range (h : p.TakenFrom s) {n : Int} (hn : n ∈ p.range) :
    n + (p.offset - s.offset) ∈ s.range := by
  obtain ⟨x, -, hx⟩ := entryAt?_of_mem hn
  exact mem_of_entryAt? ((h.entry_eq n hn).symm.trans hx)

theorem trans {t : Section} (h : p.TakenFrom s) (h' : s.TakenFrom t) : p.TakenFrom t where
  size_le := Nat.le_trans h.size_le h'.size_le
  entry_eq n hn := by
    rw [h.entry_eq n hn, h'.entry_eq _ (h.mem_range hn)]
    congr 1
    omega

theorem shift (s : Section) (a : Int) : (s.shift a).TakenFrom s where
  size_le := Nat.le_refl _
  entry_eq n _ := by
    -- the offset loses what the line numbers gain
    rw [entryAt?_shift, offset_shift]
    congr 1
    omega

/-- Both parts of a cut have the offset of the section. -/
theorem of_split (hc : s.split k = .ok (upper, lower)) :
    upper.TakenFrom s ∧ lower.TakenFrom s := by
  obtain ⟨-, hlast, hfirst, -⟩ := split_bounds hc
  obtain ⟨hupper, hlower⟩ := offset_of_split hc
  have hsize := size_of_split hc
  constructor
  · refine ⟨by omega, fun n hn => ?_⟩
    have := (LineRange.mem_iff.1 hn).2
    rw [hupper, Int.sub_self, Int.add_zero, entryAt?_upper hc (by omega)]
  · refine ⟨by omega, fun n hn => ?_⟩
    have := (LineRange.mem_iff.1 hn).1
    rw [hlower, Int.sub_self, Int.add_zero, entryAt?_lower hc (by omega)]

end TakenFrom

/-! ## Pieces -/

/-- What moves and cuts, in any number and order, make of the section. -/
inductive Piece (s : Section) : Section → Prop
  | whole : Piece s s
  | moved {p : Section} (a : Int) (hp : Piece s p) : Piece s (p.shift a)
  | upper {p upper lower : Section} {k : Int} (hp : Piece s p)
      (hc : p.split k = .ok (upper, lower)) : Piece s upper
  | lower {p upper lower : Section} {k : Int} (hp : Piece s p)
      (hc : p.split k = .ok (upper, lower)) : Piece s lower

theorem Piece.takenFrom (hp : Piece s p) : p.TakenFrom s := by
  induction hp with
  | whole => exact .refl s
  | @moved p a _ ih => exact (TakenFrom.shift p a).trans ih
  | upper _ hc ih => exact (TakenFrom.of_split hc).1.trans ih
  | lower _ hc ih => exact (TakenFrom.of_split hc).2.trans ih

/-! ## The laws -/

/-- At each of its lines `p` gives the text and the place that `s` gives `d` lines below, and at all
others it is refused. -/
structure AnswersFor (p s : Section) (d : Int) : Prop where
  own : ∀ n, n ∈ p.range → ∃ x q, p.line n = .ok x ∧ p.resolve n = .ok q ∧
    s.line (n + d) = .ok x ∧ s.resolve (n + d) = .ok q
  others : ∀ n, n ∉ p.range → p.line n = failFor (.lineOutsideSection n p.range) ∧
    p.resolve n = failFor (.unresolvedLine n p.range)

theorem TakenFrom.answersFor (h : p.TakenFrom s) : p.AnswersFor s (p.offset - s.offset) where
  own n hn := by
    obtain ⟨x, -, hx⟩ := entryAt?_of_mem hn
    obtain ⟨hline, hresolve⟩ := lookup_of_entryAt? hx
    obtain ⟨hline', hresolve'⟩ := lookup_of_entryAt? ((h.entry_eq n hn).symm.trans hx)
    exact ⟨_, _, hline, hresolve, hline', hresolve'⟩
  others _ hn := lookup_of_not_mem hn

/-- The sections `upper` and `lower` share the lines of `s` between them: those above the line `k`,
and those from there on. -/
structure Halves (s : Section) (k : Int) (upper lower : Section) : Prop where
  upper_valid : upper.Valid
  lower_valid : lower.Valid
  lines_eq : upper.lines ++ lower.lines = s.lines
  mem_upper_iff : ∀ n, n ∈ upper.range ↔ n ∈ s.range ∧ n < k
  mem_lower_iff : ∀ n, n ∈ lower.range ↔ n ∈ s.range ∧ k ≤ n
  upper_answers : upper.AnswersFor s 0
  lower_answers : lower.AnswersFor s 0

theorem Valid.halves (hs : s.Valid) (hc : s.split k = .ok (upper, lower)) :
    Halves s k upper lower := by
  obtain ⟨hfirst, hmid, hmid', hlast, habove, hbelow⟩ := split_bounds hc
  obtain ⟨hupper, hlower⟩ := TakenFrom.of_split hc
  have hanswers := hupper.answersFor
  have hanswers' := hlower.answersFor
  rw [(offset_of_split hc).1, Int.sub_self] at hanswers
  rw [(offset_of_split hc).2, Int.sub_self] at hanswers'
  constructor
  case upper_valid => exact hs.of_size_le hupper.size_le
  case lower_valid => exact hs.of_size_le hlower.size_le
  case lines_eq => exact lines_of_split hc
  case mem_upper_iff =>
    intro n
    rw [LineRange.mem_iff, LineRange.mem_iff]
    omega
  case mem_lower_iff =>
    intro n
    rw [LineRange.mem_iff, LineRange.mem_iff]
    omega
  case upper_answers => exact hanswers
  case lower_answers => exact hanswers'

/-- The laws of moving and cutting a section. -/
structure Laws (s : Section) : Prop where
  shift_valid : ∀ a,
    ofBounds s.path (s.range.first + a) (s.range.last + a) s.lines (s.offset - a) = .ok (s.shift a)
  shift_shift : ∀ a b, (s.shift a).shift b = s.shift (a + b)
  shift_zero : s.shift 0 = s
  line_shift : ∀ a n, (s.shift a).line (n + a) = (s.line n).mapError (·.moved a)
  resolve_shift : ∀ a n, (s.shift a).resolve (n + a) = (s.resolve n).mapError (·.moved a)
  split_iff : ∀ k, (∃ parts, s.split k = .ok parts) ↔ s.range.first < k ∧ k < s.range.last
  split_shift : ∀ a k, (s.shift a).split (k + a) =
    ((s.split k).map (Prod.map (·.shift a) (·.shift a))).mapError (·.moved a)
  halves : ∀ k upper lower, s.split k = .ok (upper, lower) → Halves s k upper lower
  pieces : ∀ p, Piece s p → p.Valid ∧ p.AnswersFor s (p.offset - s.offset)

/-- **Moving and cutting lose track of no line.** A section can be moved by any number of lines, and
moves add up. At the moved lines a moved section answers as before, and before them it can be cut as
before, into the moved parts; what was refused is refused for the same cause, told with the moved line
numbers. The parts of a cut have the lines of the section one after the other, and each answers as the
section does for its own lines and no others. So whatever moves and cuts have made of the section
answers at each of its lines as the section does at the line with the same number in the source. -/
theorem laws_of_valid (hs : s.Valid) : Laws s where
  shift_valid a := hs.of_size_le (Nat.le_of_eq (s.size_shift a))
  shift_shift := s.shift_shift
  shift_zero := s.shift_zero
  line_shift a n := (s.lookup_shift a n).1
  resolve_shift a n := (s.lookup_shift a n).2
  split_iff _ := exists_split_iff
  split_shift := s.split_shift
  halves _ _ _ hc := hs.halves hc
  pieces _ hp := ⟨hs.of_size_le hp.takenFrom.size_le, hp.takenFrom.answersFor⟩

end Section

namespace Sample

/-- The lines 4 to 9 of a source, numbered from 11 on. -/
def branch : Section :=
  ⟨"b", ⟨11, 16, by decide⟩, ["b4", "b5", "b6", "b7", "b8", "b9"], -7, rfl, by decide⟩

end Sample

open Section in
/-- Cut before line 14 and moved up by 9 lines, the branch can be cut again before line 6. What is
below has the lines 8 and 9 of the source, which the branch has at 15 and 16. Moved down by 3 lines,
the branch cannot be cut before line 20, as it could not before line 17. -/
theorem laws_of_valid_branch : Sample.branch.Valid ∧
    ∃ upper lower middle rest, Sample.branch.split 14 = .ok (upper, lower) ∧
      Halves Sample.branch 14 upper lower ∧ (lower.shift (-9)).split 6 = .ok (middle, rest) ∧
      rest.Valid ∧ rest.AnswersFor Sample.branch 9 ∧ rest.line 7 = .ok "b9" ∧
      rest.resolve 7 = .ok ⟨"b", 9⟩ ∧ Sample.branch.resolve 16 = .ok ⟨"b", 9⟩ ∧
      ((Sample.branch.shift 3).split 20).mapError Error.kind? = .error (some .range) := by
  have hvalid : Sample.branch.Valid := valid_iff.2 (by decide)
  obtain ⟨-, -, -, -, -, -, hsplit, hhalves, hpieces⟩ := laws_of_valid hvalid
  have hcut : Sample.branch.split 14 = .ok (_, _) := rfl
  have hcut' : ((Sample.branch.since 14 (by decide)).shift (-9)).split 6 = .ok (_, _) := rfl
  obtain ⟨hrest, hanswers⟩ := hpieces _ (.lower (.moved (-9) (.lower .whole hcut)) hcut')
  refine ⟨hvalid, _, _, _, _, hcut, hhalves 14 _ _ hcut, hcut', hrest, hanswers, rfl, rfl, rfl, ?_⟩
  rw [show (20 : Int) = 17 + 3 from rfl, hsplit 3 17, mapError_kind?_moved]
  rfl

end Patchwork
