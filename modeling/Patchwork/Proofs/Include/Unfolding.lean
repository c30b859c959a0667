import Patchwork.Proofs.Include.Run

/-!
# Unfolding

A scan of a contiguous document is one flat loop: it rewinds at each splice and renumbers what
follows. Here it is told as a recursion over the sections still to be scanned. `Unfolds` says what
becomes of them when all goes well: a section without directive stays; one with a directive is cut
(`Section.Cut`), the source spliced in is unfolded first, then the lower part and the sections after
it. `Fails` says which error comes first. `outcome_of_run` shows that a scan does one or the other,
from any state whose cursor is at the beginning of a section.
-/

namespace Patchwork

/-- The span of a directive on a line of the source at `path`. -/
def Directive.spanAt (dir : Directive) (path : String) (line : Int) : Span :=
  (Location.mk path line).span dir.startCol dir.endCol

namespace Section

variable {load : Loader} {find : String → Option Directive}

/-! ## Cutting at a directive -/

/-- The source at `path`, and the parts of the section above and from the line `n` on, which is
blanked. -/
def openAt (load : Loader) (s : Section) (path : String) (n : Int) :
    Except Error (Section × Section × Section) := do
  let source ← Section.load load path
  let (upper, lower) ← (s.modifyLine n Text.blank).split n
  return (upper, source, lower)

/-- The section holds the line `n`, with the text `x`, between others; `upper` and `lower` are what
is above it and what is from it on, when it is blank. -/
structure Cut (s : Section) (pre : List String) (x : String) (post : List String) (n : Int)
    (upper lower : Section) : Prop where
  lines : s.lines = pre ++ x :: post
  line_eq : n = s.range.first + pre.length
  first_lt : s.range.first < n
  lt_last : n < s.range.last
  path_upper : upper.path = s.path
  path_lower : lower.path = s.path
  offset_upper : upper.offset = s.offset
  offset_lower : lower.offset = s.offset
  lines_upper : upper.lines = pre
  lines_lower : lower.lines = Text.blank x :: post
  first_upper : upper.range.first = s.range.first
  last_upper : upper.range.last = n - 1
  first_lower : lower.range.first = n
  last_lower : lower.range.last = s.range.last

theorem cut_of_split {s upper lower : Section} {pre post : List String} {x : String} {n : Int}
    (hlines : s.lines = pre ++ x :: post) (hn : n = s.range.first + pre.length)
    (h : (s.modifyLine n Text.blank).split n = .ok (upper, lower)) :
    s.Cut pre x post n upper lower := by
  have hindex : s.index n = pre.length := by
    unfold index
    omega
  have hmod := lines_modifyLine hlines hn Text.blank
  obtain ⟨⟨h₁, h₂⟩, rfl, rfl⟩ := split_eq_ok.1 h
  refine ⟨hlines, hn, h₁, h₂, rfl, rfl, rfl, rfl, ?_, ?_, rfl, rfl, rfl, rfl⟩
  · show (s.modifyLine n Text.blank).lines.take (s.index n) = pre
    rw [hmod, hindex, List.take_left]
  · show (s.modifyLine n Text.blank).lines.drop (s.index n) = Text.blank x :: post
    rw [hmod, hindex, List.drop_left]

theorem openAt_eq_ok {s upper source lower : Section} {path : String} {n : Int} :
    s.openAt load path n = .ok (upper, source, lower) ↔
      Section.load load path = .ok source ∧
        (s.modifyLine n Text.blank).split n = .ok (upper, lower) := by
  unfold openAt
  constructor
  · intro h
    obtain ⟨source', hs, h⟩ := bind_eq_ok.1 h
    obtain ⟨⟨u, l⟩, hc, h⟩ := bind_eq_ok.1 h
    cases h
    exact ⟨hs, hc⟩
  · rintro ⟨hs, hc⟩
    rw [hs]
    show (_ >>= _) = _
    rw [hc]
    rfl

theorem openAt_eq_error {s : Section} {path : String} {n : Int} {e : Error} :
    s.openAt load path n = .error e ↔ Section.load load path = .error e ∨
      ∃ source, Section.load load path = .ok source ∧
        (s.modifyLine n Text.blank).split n = .error e := by
  rw [openAt, bind_eq_error]
  refine or_congr_right (exists_congr fun source => and_congr_right fun _ => ?_)
  rw [bind_eq_error]
  constructor
  · rintro (h | ⟨_, -, h⟩)
    · exact h
    · cases h
  · exact Or.inl

end Section

namespace Scan

open Section

variable {load : Loader} {find : String → Option Directive} {base : Option String}

/-! ## Single steps -/

section Steps

variable {s : Scan} {before after : List Section} {host : Section}

theorem step_of_outside (h : ∀ t ∈ s.document.sections, s.cursor ∉ t.range) :
    s.step load find = .ok (.finished s.document) := by
  rw [step, Document.sectionAt?_eq_none_iff.2 h]

variable (hd : s.document.sections = before ++ host :: after) (ho : Ordered s.document.sections)
  (hc : s.cursor ∈ host.range)

include hd ho hc in
theorem sectionAt?_cursor : s.document.sectionAt? s.cursor = some host :=
  Document.sectionAt?_eq hd (Ordered.not_mem_of_mem (hd ▸ ho) hc).1 hc

include hd ho hc in
theorem step_of_none (hf : host.firstDirective find = none) :
    s.step load find = .ok (.going { s with cursor := host.range.last + 1 }) := by
  simp only [step, sectionAt?_cursor hd ho hc, hf]

variable {n : Int} {dir : Directive} (hf : host.firstDirective find = some (n, dir))

include hd ho hc hf in
theorem step_of_cyclic (hmem : sourcePath s.document.base dir.target ∈ chain s.above host.path) :
    s.step load find = .error (.reported
      (.cyclicInclude (sourcePath s.document.base dir.target) host.path)
      (some (dir.spanAt host.path (n + host.offset)))) := by
  simp only [step, sectionAt?_cursor hd ho hc, hf, if_pos hmem]
  rfl

include hd ho hf in
/-- Blanking a directive and splicing a source in at it comes down to opening its section. -/
theorem splice_eq (target : String) :
    (do
      let blanked ← s.document.update n Text.blank
      blanked.insertSource load target n) =
    (host.openAt load (sourcePath s.document.base target) n).map fun parts =>
      { s.document with sections := splice before parts.1 parts.2.1 parts.2.2 after } := by
  have hn := mem_range_of_firstDirective hf
  have hb := (Ordered.not_mem_of_mem (hd ▸ ho) hn).1
  rw [Document.update_eq hd hb hn]
  show Document.insertSource load _ target n = _
  unfold Document.insertSource openAt
  cases hl : Section.load load (sourcePath s.document.base target) with
  | error e => rfl
  | ok source =>
    have ho' : Ordered (before ++ host.modifyLine n Text.blank :: after) :=
      Ordered.congr ho (by simp [hd])
    have hn' : n ∈ (host.modifyLine n Text.blank).range := hn
    show Document.insert _ source n = _
    rw [Document.insert_of_ordered rfl ho' hn']
    show _ = Except.map _ ((host.modifyLine n Text.blank).split n >>= _)
    cases (host.modifyLine n Text.blank).split n with
    | error e => rfl
    | ok parts => rfl

include hd ho hc hf in
theorem step_of_refused {e : Error}
    (hmem : sourcePath s.document.base dir.target ∉ chain s.above host.path)
    (hopen : host.openAt load (sourcePath s.document.base dir.target) n = .error e) :
    s.step load find = .error (e.blaming (dir.spanAt host.path (n + host.offset))) := by
  simp only [step, sectionAt?_cursor hd ho hc, hf, if_neg hmem]
  rw [splice_eq hd ho hf, hopen]
  rfl

include hd ho hc hf in
theorem step_of_opened {upper source lower : Section}
    (hmem : sourcePath s.document.base dir.target ∉ chain s.above host.path)
    (hopen : host.openAt load (sourcePath s.document.base dir.target) n =
      .ok (upper, source, lower)) :
    s.step load find = .ok (.going
      ⟨{ s.document with sections := splice before upper source lower after }, host.range.first,
        remember s.above (sourcePath s.document.base dir.target) (chain s.above host.path)⟩) := by
  simp only [step, sectionAt?_cursor hd ho hc, hf, if_neg hmem]
  rw [splice_eq hd ho hf, hopen]
  rfl

end Steps

/-! ## Unfolding and failing -/

/-- What is known above sources. -/
abbrev Above := List (String × List String)

/-- What sections become when they and all that is spliced into them are scanned without failure,
and what is known above the sources then. -/
inductive Unfolds (load : Loader) (find : String → Option Directive) (base : Option String) :
    Above → List Section → Above → List Section → Prop
  | done {above : Above} : Unfolds load find base above [] above []
  | kept {above above' : Above} {s : Section} {rest out : List Section}
      (hf : s.firstDirective find = none) (h : Unfolds load find base above rest above' out) :
      Unfolds load find base above (s :: rest) above' (s :: out)
  | spliced {above above₁ above₂ : Above} {s upper source lower : Section}
      {rest mid out : List Section} {n : Int} {dir : Directive}
      (hf : s.firstDirective find = some (n, dir))
      (hmem : sourcePath base dir.target ∉ chain above s.path)
      (hopen : s.openAt load (sourcePath base dir.target) n = .ok (upper, source, lower))
      (hin : Unfolds load find base
        (remember above (sourcePath base dir.target) (chain above s.path)) [source.shift (n - 1)]
        above₁ mid)
      (hout : Unfolds load find base above₁ ((lower :: rest).map (·.shift (totalSize mid))) above₂
        out) :
      Unfolds load find base above (s :: rest) above₂ (upper :: mid ++ out)

/-- The error that comes first when sections and all that is spliced into them are scanned. -/
inductive Fails (load : Loader) (find : String → Option Directive) (base : Option String) :
    Above → List Section → Error → Prop
  | later {above : Above} {s : Section} {rest : List Section} {e : Error}
      (hf : s.firstDirective find = none) (h : Fails load find base above rest e) :
      Fails load find base above (s :: rest) e
  | cyclic {above : Above} {s : Section} {rest : List Section} {n : Int} {dir : Directive}
      (hf : s.firstDirective find = some (n, dir))
      (hmem : sourcePath base dir.target ∈ chain above s.path) :
      Fails load find base above (s :: rest) (.reported
        (.cyclicInclude (sourcePath base dir.target) s.path)
        (some (dir.spanAt s.path (n + s.offset))))
  | refused {above : Above} {s : Section} {rest : List Section} {n : Int} {dir : Directive}
      {e : Error} (hf : s.firstDirective find = some (n, dir))
      (hmem : sourcePath base dir.target ∉ chain above s.path)
      (hopen : s.openAt load (sourcePath base dir.target) n = .error e) :
      Fails load find base above (s :: rest) (e.blaming (dir.spanAt s.path (n + s.offset)))
  | inside {above : Above} {s upper source lower : Section} {rest : List Section} {n : Int}
      {dir : Directive} {e : Error} (hf : s.firstDirective find = some (n, dir))
      (hmem : sourcePath base dir.target ∉ chain above s.path)
      (hopen : s.openAt load (sourcePath base dir.target) n = .ok (upper, source, lower))
      (h : Fails load find base
        (remember above (sourcePath base dir.target) (chain above s.path)) [source.shift (n - 1)]
        e) :
      Fails load find base above (s :: rest) e
  | following {above above₁ : Above} {s upper source lower : Section} {rest mid : List Section}
      {n : Int} {dir : Directive} {e : Error} (hf : s.firstDirective find = some (n, dir))
      (hmem : sourcePath base dir.target ∉ chain above s.path)
      (hopen : s.openAt load (sourcePath base dir.target) n = .ok (upper, source, lower))
      (hin : Unfolds load find base
        (remember above (sourcePath base dir.target) (chain above s.path)) [source.shift (n - 1)]
        above₁ mid)
      (h : Fails load find base above₁ ((lower :: rest).map (·.shift (totalSize mid))) e) :
      Fails load find base above (s :: rest) e

/-- What opening a section at its first directive gives. -/
theorem cut_of_openAt {s upper source lower : Section} {path : String} {n : Int} {dir : Directive}
    (hf : s.firstDirective find = some (n, dir))
    (hopen : s.openAt load path n = .ok (upper, source, lower)) :
    Section.load load path = .ok source ∧ ∃ pre x post, s.Cut pre x post n upper lower ∧
      (∀ y ∈ pre, find y = none) ∧ find x = some dir := by
  obtain ⟨hs, hc⟩ := openAt_eq_ok.1 hopen
  obtain ⟨pre, x, post, hlines, hn, hpre, hx⟩ := exists_of_firstDirective hf
  exact ⟨hs, pre, x, post, cut_of_split hlines hn hc, hpre, hx⟩

/-- The sections that take the place of abutting ones abut from the same line on. -/
theorem Unfolds.abut {above above' : Above} {todo out : List Section}
    (h : Unfolds load find base above todo above' out) {m : Int} (ha : Abut m todo) :
    Abut m out := by
  induction h generalizing m with
  | done => trivial
  | kept _ _ ih => exact ⟨ha.1, ih ha.2⟩
  | @spliced above above₁ above₂ s upper source lower rest mid out n dir hf _ hopen _ _ ihin ihout =>
    obtain ⟨hs, pre, x, post, hcut, -, -⟩ := cut_of_openAt hf hopen
    have hfirst := (load_eq_ok hs).2.2.1
    have hmid : Abut n mid := by
      refine ihin ⟨?_, trivial⟩
      simp only [range_shift, LineRange.first_shift]
      omega
    have hlow : Abut n (lower :: rest) := ⟨hcut.first_lower, by rw [hcut.last_lower]; exact ha.2⟩
    have hupper := hcut.last_upper
    refine ⟨hcut.first_upper.trans ha.1, ?_⟩
    rw [hupper, Int.sub_add_cancel]
    exact abut_append.2 ⟨hmid, ihout (hlow.map_shift _)⟩

theorem Unfolds.tail {above above' : Above} {s : Section} {rest out : List Section}
    (hf : s.firstDirective find = none)
    (h : Unfolds load find base above (s :: rest) above' out) :
    ∃ out', out = s :: out' ∧ Unfolds load find base above rest above' out' := by
  cases h with
  | kept _ h => exact ⟨_, rfl, h⟩
  | spliced hf' => rw [hf] at hf'; cases hf'

theorem Fails.tail {above : Above} {s : Section} {rest : List Section} {e : Error}
    (hf : s.firstDirective find = none) (h : Fails load find base above (s :: rest) e) :
    Fails load find base above rest e := by
  cases h with
  | later _ h => exact h
  | cyclic hf' | refused hf' | inside hf' | following hf' => rw [hf] at hf'; cases hf'

/-! ## From a run to an unfolding -/

/-- The scan of abutting sections that has come past `done` and goes on with `todo`. -/
def past (base : Option String) (done todo : List Section) (above : Above) : Scan :=
  ⟨⟨base, done ++ todo⟩, 1 + totalSize done, above⟩

section Past

variable {done rest : List Section} {s : Section} {above : Above}

theorem run_past_nil (rounds : Nat) (ha : Abut 1 done) :
    run load find (rounds + 1) (past base done [] above) = some (.ok ⟨base, done⟩) := by
  have hout : ∀ t ∈ (past base done [] above).document.sections,
      (past base done [] above).cursor ∉ t.range := by
    intro t ht hmem
    rw [past, List.append_nil] at ht
    have h₁ := (ha.le_first t ht).2
    have h₂ := (LineRange.mem_iff.1 hmem).2
    simp only [past] at h₂
    omega
  rw [run, step_of_outside hout]
  simp [past]

variable (ha : Abut 1 (done ++ s :: rest))

include ha in
theorem cursor_past_mem : (past base done (s :: rest) above).cursor ∈ s.range := by
  have hs : s.range.first = 1 + totalSize done := (abut_append.1 ha).2.1
  show (1 + totalSize done : Int) ∈ s.range
  exact hs ▸ s.range.first_mem

include ha in
theorem run_past_kept (rounds : Nat) (hf : s.firstDirective find = none) :
    run load find (rounds + 1) (past base done (s :: rest) above) =
      run load find rounds (past base (done ++ [s]) rest above) := by
  have hs : s.range.first = 1 + totalSize done := (abut_append.1 ha).2.1
  have hlast := s.last_eq
  rw [run, step_of_none rfl ha.ordered (cursor_past_mem ha) hf]
  simp only [past, List.append_assoc, List.singleton_append, totalSize_append, totalSize_cons,
    totalSize_nil]
  congr 2
  omega

variable {n : Int} {dir : Directive} (hf : s.firstDirective find = some (n, dir))

include ha hf in
theorem run_past_cyclic (rounds : Nat)
    (hmem : sourcePath base dir.target ∈ chain above s.path) :
    run load find (rounds + 1) (past base done (s :: rest) above) = some (.error (.reported
      (.cyclicInclude (sourcePath base dir.target) s.path)
      (some (dir.spanAt s.path (n + s.offset))))) := by
  rw [run, step_of_cyclic rfl ha.ordered (cursor_past_mem ha) hf hmem]
  rfl

include ha hf in
theorem run_past_refused (rounds : Nat) {e : Error}
    (hmem : sourcePath base dir.target ∉ chain above s.path)
    (hopen : s.openAt load (sourcePath base dir.target) n = .error e) :
    run load find (rounds + 1) (past base done (s :: rest) above) =
      some (.error (e.blaming (dir.spanAt s.path (n + s.offset)))) := by
  rw [run, step_of_refused rfl ha.ordered (cursor_past_mem ha) hf hmem hopen]

include hf in
theorem splice_of_openAt {path : String} {upper source lower : Section}
    (hopen : s.openAt load path n = .ok (upper, source, lower)) :
    splice done upper source lower rest =
      done ++ upper :: source.shift (n - 1) :: (lower :: rest).map (·.shift source.size) := by
  obtain ⟨hs, pre, x, post, hcut, -, -⟩ := cut_of_openAt hf hopen
  have hshift : upper.range.last - source.range.first + 1 = n - 1 := by
    rw [hcut.last_upper, (load_eq_ok hs).2.2.1]
    omega
  rw [splice, hshift]

include ha hf in
theorem abut_opened {path : String} {upper source lower : Section}
    (hopen : s.openAt load path n = .ok (upper, source, lower)) :
    Abut 1 (done ++ upper :: source.shift (n - 1) :: (lower :: rest).map (·.shift source.size)) := by
  have ha' : Abut 1 (done ++ s.modifyLine n Text.blank :: rest) := ha.congr (by simp)
  rw [← splice_of_openAt hf hopen]
  exact ha'.splice (openAt_eq_ok.1 hopen).2 source

include ha hf in
/-- A splice leaves the scan at the upper part of the section it has cut. -/
theorem run_past_opened (rounds : Nat) {upper source lower : Section}
    (hmem : sourcePath base dir.target ∉ chain above s.path)
    (hopen : s.openAt load (sourcePath base dir.target) n = .ok (upper, source, lower)) :
    run load find (rounds + 1) (past base done (s :: rest) above) =
      run load find rounds (past base done
        (upper :: source.shift (n - 1) :: (lower :: rest).map (·.shift source.size))
        (remember above (sourcePath base dir.target) (chain above s.path))) := by
  have hfirst : s.range.first = 1 + totalSize done := (abut_append.1 ha).2.1
  rw [run, step_of_opened rfl ha.ordered (cursor_past_mem ha) hf hmem hopen,
    splice_of_openAt hf hopen, hfirst]
  rfl

end Past

theorem abut_past {above above' : Above} {done todo rest out : List Section}
    (h : Unfolds load find base above todo above' out) (ha : Abut 1 (done ++ (todo ++ rest))) :
    Abut 1 (done ++ (out ++ rest.map (·.shift (totalSize out - totalSize todo)))) := by
  obtain ⟨hdone, hrest⟩ := abut_append.1 ha
  obtain ⟨htodo, hrest⟩ := abut_append.1 hrest
  refine abut_append.2 ⟨hdone, abut_append.2 ⟨h.abut htodo, ?_⟩⟩
  have := hrest.map_shift (totalSize out - totalSize todo)
  rwa [Int.add_assoc, Int.add_comm (totalSize todo : Int), Int.sub_add_cancel] at this

/-- When the source spliced in has been unfolded, what follows has moved by what it unfolds to. -/
theorem map_shift_opened (upper source lower : Section) (more rest mid : List Section) (k : Int) :
    ((lower :: (more ++ rest)).map (·.shift source.size)).map
        (·.shift (totalSize (upper :: mid) - totalSize [upper, source.shift k])) =
      (lower :: more).map (·.shift (totalSize mid)) ++ rest.map (·.shift (totalSize mid)) := by
  rw [List.map_map, ← List.cons_append, ← List.map_append]
  refine List.map_congr_left fun t _ => ?_
  simp only [Function.comp_apply, shift_shift, totalSize_cons, totalSize_nil, size_shift]
  congr 1
  omega

/-- What follows an unfolded section has moved by the lines that came to it. -/
theorem totalSize_opened {s upper lower : Section} (hsize : upper.size + lower.size = s.size)
    (more mid out : List Section) :
    (totalSize mid : Int) +
        (totalSize out - totalSize ((lower :: more).map (·.shift (totalSize mid)))) =
      totalSize (upper :: mid ++ out) - totalSize (s :: more) := by
  simp only [totalSize_map_shift, totalSize_cons, totalSize_append, List.cons_append]
  omega

/-- **A scan unfolds its sections or fails.** From a state that has come past `done` and goes on with
`todo`, a scan that is over has failed in `todo`, or has come past what `todo` unfolds to, with the
sections after it moved accordingly. -/
theorem outcome_of_run {rounds : Nat} {done todo rest : List Section} {above : Above}
    {r : Except Error Document} (ha : Abut 1 (done ++ (todo ++ rest)))
    (hrun : run load find rounds (past base done (todo ++ rest) above) = some r) :
    (∃ e, r = .error e ∧ Fails load find base above todo e) ∨
    ∃ above' out rounds', rounds' ≤ rounds ∧ Unfolds load find base above todo above' out ∧
      run load find rounds' (past base (done ++ out)
        (rest.map (·.shift (totalSize out - totalSize todo))) above') = some r := by
  induction rounds using Nat.strongRecOn generalizing done todo rest above with
  | ind rounds ih =>
  cases todo with
  | nil => exact Or.inr ⟨above, [], rounds, Nat.le_refl _, .done, by simpa using hrun⟩
  | cons s more =>
  cases rounds with
  | zero => cases hrun
  | succ k =>
  rw [List.cons_append] at ha hrun
  cases hf : s.firstDirective find with
  | none =>
    rw [run_past_kept ha k hf] at hrun
    have ha' : Abut 1 (done ++ [s] ++ (more ++ rest)) := by simpa using ha
    rcases ih k (Nat.lt_succ_self k) ha' hrun with ⟨e, rfl, he⟩ | ⟨above', out, k', hk, hu, hr⟩
    · exact Or.inl ⟨e, rfl, .later hf he⟩
    · refine Or.inr ⟨above', s :: out, k', by omega, .kept hf hu, ?_⟩
      have hshift : (totalSize (s :: out) : Int) - totalSize (s :: more) =
          totalSize out - totalSize more := by
        simp only [totalSize_cons]
        omega
      rwa [hshift, List.append_cons]
  | some p =>
    obtain ⟨n, dir⟩ := p
    by_cases hmem : sourcePath base dir.target ∈ chain above s.path
    · rw [run_past_cyclic ha hf k hmem] at hrun
      cases hrun
      exact Or.inl ⟨_, rfl, .cyclic hf hmem⟩
    cases hopen : s.openAt load (sourcePath base dir.target) n with
    | error e =>
      rw [run_past_refused ha hf k hmem hopen] at hrun
      cases hrun
      exact Or.inl ⟨_, rfl, .refused hf hmem hopen⟩
    | ok parts =>
      obtain ⟨upper, source, lower⟩ := parts
      obtain ⟨-, pre, x, post, hcut, hpre, -⟩ := cut_of_openAt hf hopen
      have hupper : upper.firstDirective find = none :=
        firstDirective_eq_none_iff.2 (hcut.lines_upper ▸ hpre)
      have hsize := size_of_split (openAt_eq_ok.1 hopen).2
      rw [size_modifyLine] at hsize
      rw [run_past_opened ha hf k hmem hopen] at hrun
      have ha' : Abut 1 (done ++ ([upper, source.shift (n - 1)] ++
          (lower :: (more ++ rest)).map (·.shift source.size))) := abut_opened ha hf hopen
      -- the scan of the upper part and the source, and then that of all that follows
      rcases ih k (Nat.lt_succ_self k) ha' hrun with ⟨e, rfl, he⟩ | ⟨above₁, out₁, k₁, hk₁, hu₁, hr₁⟩
      · exact Or.inl ⟨e, rfl, .inside hf hmem hopen (he.tail hupper)⟩
      obtain ⟨mid, rfl, hin⟩ := hu₁.tail hupper
      have ha₁ := abut_past hu₁ ha'
      rw [map_shift_opened] at ha₁ hr₁
      rw [← List.append_assoc] at ha₁
      rcases ih k₁ (by omega) ha₁ hr₁ with ⟨e, rfl, he⟩ | ⟨above₂, out, k₂, hk₂, hout, hr₂⟩
      · exact Or.inl ⟨e, rfl, .following hf hmem hopen hin he⟩
      · refine Or.inr ⟨above₂, upper :: mid ++ out, k₂, by omega, .spliced hf hmem hopen hin hout, ?_⟩
        rw [List.map_map] at hr₂
        simp only [Function.comp_def, shift_shift, totalSize_opened hsize] at hr₂
        rwa [List.append_assoc] at hr₂

/-- What the scan of a whole contiguous document is over with. -/
theorem outcome_of_ends {d : Document} {r : Except Error Document} (hd : d.Contiguous)
    (h : Ends load find d r) :
    (∃ e, r = .error e ∧ Fails load find d.base [] d.sections e) ∨
    ∃ above out, r = .ok ⟨d.base, out⟩ ∧ Unfolds load find d.base [] d.sections above out := by
  obtain ⟨rounds, hrun⟩ := h
  have ha : Abut 1 ([] ++ (d.sections ++ [])) := by
    rw [List.append_nil, List.nil_append]
    exact hd
  have hstart : Scan.start d = past d.base [] (d.sections ++ []) [] := by
    rw [past, List.append_nil, List.nil_append]
    rfl
  rw [hstart] at hrun
  rcases outcome_of_run ha hrun with he | ⟨above, out, rounds', -, hu, hr⟩
  · exact Or.inl he
  · refine Or.inr ⟨above, out, ?_, hu⟩
    cases rounds' with
    | zero => cases hr
    | succ k =>
      have hout : Abut 1 out := hu.abut hd
      rw [List.nil_append, List.map_nil, run_past_nil k hout] at hr
      exact (Option.some.inj hr).symm

end Scan

end Patchwork
