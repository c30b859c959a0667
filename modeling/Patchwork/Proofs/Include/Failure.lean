import Patchwork.Proofs.Include.Termination
import Patchwork.Proofs.Include.Walk

/-!
# Where including fails

A scan keeps no stack. It remembers for each source the sources above it, gathered over all its
occurrences, those that are done included. This agrees with the stack of a walk because of what a
walk that has come to the end leaves behind: the sources that were on the stack then cannot be reached
from the ones that are done (`Tracks`), so they are never named there again.

With that, the error a scan of a source fails with is the one the walk through it meets, and a scan
that does not fail has a walk to the end (`including_eq_error_iff`).
-/

namespace Patchwork

/-- What is remembered above the sources fits the stack, innermost source first: whatever is below a
source on the stack is remembered above it, and what else is remembered above a source cannot be
reached from it. -/
structure Tracks (load : Loader) (find : String → Option Directive) (base : Option String)
    (above : List (String × List String)) (stack : List String) : Prop where
  complete : ∀ t x, [t, x].Sublist stack → x ∈ Scan.sourcesAbove above t
  sound : ∀ t x, x ∈ Scan.sourcesAbove above t →
    [t, x].Sublist stack ∨ ¬Relation.TransGen (Names load find base) t x

namespace Tracks

open Scan

variable {load : Loader} {find : String → Option Directive} {base : Option String}
  {above : List (String × List String)} {path target : String} {stack : List String}

theorem start (path : String) : Tracks load find base [] [path] := by
  constructor
  · intro t x h
    have := h.length_le
    simp at this
  · intro t x h
    cases h

theorem pair_sublist_cons {t x : String} :
    [t, x].Sublist (path :: stack) ↔ [t, x].Sublist stack ∨ t = path ∧ x ∈ stack := by
  rw [List.sublist_cons_iff]
  refine or_congr_right ⟨?_, ?_⟩
  · rintro ⟨r, hr, hs⟩
    obtain ⟨rfl, rfl⟩ := List.cons.inj hr
    exact ⟨rfl, List.singleton_sublist.1 hs⟩
  · rintro ⟨rfl, hx⟩
    exact ⟨[x], rfl, List.singleton_sublist.2 hx⟩

theorem mem_of_pair_sublist {t x : String} (h : [t, x].Sublist (path :: stack)) : x ∈ stack := by
  rcases pair_sublist_cons.1 h with h | ⟨-, h⟩
  · exact h.subset (List.mem_cons_of_mem _ List.mem_cons_self)
  · exact h

/-- **The remembered chain is as good as the stack**, for a source that is named. -/
theorem mem_chain_iff_mem (h : Tracks load find base above (path :: stack))
    (hnames : Names load find base path target) :
    target ∈ chain above path ↔ target = path ∨ target ∈ stack := by
  rw [mem_chain_iff]
  refine or_congr_right ⟨fun hmem => ?_, fun hmem => ?_⟩
  · rcases h.sound path target hmem with hsub | hnot
    · exact mem_of_pair_sublist hsub
    · exact absurd (.single hnames) hnot
  · exact h.complete path target (pair_sublist_cons.2 (Or.inr ⟨rfl, hmem⟩))

theorem push (h : Tracks load find base above (path :: stack))
    (hnames : Names load find base path target) :
    Tracks load find base (remember above target (chain above path)) (target :: path :: stack) := by
  constructor
  · intro t x hsub
    rw [mem_sourcesAbove_remember]
    rcases pair_sublist_cons.1 hsub with hsub | ⟨rfl, hx⟩
    · exact Or.inr (h.complete t x hsub)
    · refine Or.inl ⟨rfl, mem_chain_iff.2 ?_⟩
      exact (List.mem_cons.1 hx).imp_right fun hx =>
        h.complete path x (pair_sublist_cons.2 (Or.inr ⟨rfl, hx⟩))
  · intro t x hx
    rcases mem_sourcesAbove_remember.1 hx with ⟨rfl, hchain⟩ | hx
    · rcases mem_chain_iff.1 hchain with rfl | hx
      · exact Or.inl (pair_sublist_cons.2 (Or.inr ⟨rfl, List.mem_cons_self⟩))
      · rcases h.sound path x hx with hsub | hnot
        · exact Or.inl (pair_sublist_cons.2
            (Or.inr ⟨rfl, List.mem_cons_of_mem _ (mem_of_pair_sublist hsub)⟩))
        · -- what is reached from `target` is reached from `path`, which names it
          exact Or.inr fun hreach => hnot (.head hnames hreach)
    · exact (h.sound t x hx).imp_left fun hsub => pair_sublist_cons.2 (Or.inl hsub)

/-- Being done with a source from which nothing on the stack can be reached. -/
theorem pop (h : Tracks load find base above (target :: stack))
    (hdone : ∀ x ∈ stack, ¬Relation.TransGen (Names load find base) target x) :
    Tracks load find base above stack := by
  constructor
  · intro t x hsub
    exact h.complete t x (pair_sublist_cons.2 (Or.inl hsub))
  · intro t x hx
    rcases h.sound t x hx with hsub | hnot
    · rcases pair_sublist_cons.1 hsub with hsub | ⟨rfl, hmem⟩
      · exact Or.inl hsub
      · exact Or.inr (hdone x hmem)
    · exact Or.inr hnot

end Tracks

namespace Section

variable {load : Loader} {find : String → Option Directive} {base : Option String}
  {stack : List String} {s upper source lower : Section} {total : Nat} {opened : Bool}
  {pre post : List String} {x : String} {n : Int} {dir : Directive}

/-- The section ends with its source, of `total` lines, and either begins with it or is `opened`:
what is left from a directive on, with its blank for a first line. -/
structure Fragment (load : Loader) (find : String → Option Directive) (s : Section) (total : Nat)
    (opened : Bool) : Prop where
  last_local : s.range.last + s.offset = total
  first_local : opened = false → s.range.first + s.offset = 1
  first_lt_last : opened = true → s.range.first < s.range.last
  mem_source : ∃ lines, load s.path = .ok lines ∧
    ∀ x ∈ s.lines, x ∈ lines ∨ ∃ y ∈ lines, find y ≠ none ∧ x = Text.blank y

namespace Fragment

theorem of_load {path : String} (h : Section.load load path = .ok source) (m : Int) :
    (source.shift m).Fragment load find source.size false := by
  obtain ⟨-, -, hfirst, hoffset⟩ := load_eq_ok h
  have hlast := source.last_eq
  refine ⟨?_, fun _ => ?_, fun h => (by cases h), Drawn.of_load h m⟩
  · simp only [range_shift, LineRange.last_shift, offset_shift]
    omega
  · simp only [range_shift, LineRange.first_shift, offset_shift]
    omega

theorem remainder (h : s.Fragment load find total opened) (hc : s.Cut pre x post n upper lower)
    (hx : find x ≠ none) (m : Int) : (lower.shift m).Fragment load find total true := by
  have hlast := h.last_local
  have hlt := hc.lt_last
  refine ⟨?_, fun h => (by cases h), fun _ => ?_, Drawn.remainder h.mem_source hc hx m⟩
  · simp only [range_shift, LineRange.last_shift, offset_shift, hc.last_lower, hc.offset_lower]
    omega
  · simp only [range_shift, LineRange.first_shift, LineRange.last_shift, hc.first_lower,
      hc.last_lower]
    omega

theorem names (h : s.Fragment load find total opened) (base : Option String) (hx : x ∈ s.lines)
    (hdir : find x = some dir) :
    Names load find base s.path (sourcePath base dir.target) :=
  Drawn.names h.mem_source base hx hdir

/-! ## Refusals -/

theorem isEmpty_eq_false (hn : n = s.range.first + pre.length) (hlt : s.range.first < n) :
    pre.isEmpty = false := by
  cases pre with
  | nil =>
    simp only [List.length_nil] at hn
    omega
  | cons y pre => rfl

theorem edge_eq_none (h : s.Fragment load find total opened) (hc : s.Cut pre x post n upper lower) :
    Walk.edge (opened && pre.isEmpty) total (n + s.offset) n = none := by
  have hlocal := s.one_le_local
  have hlast := h.last_local
  have hfirst := hc.first_lt
  have hlt := hc.lt_last
  rw [isEmpty_eq_false hc.line_eq hc.first_lt, Bool.and_false]
  unfold Walk.edge
  rw [if_neg Bool.false_ne_true, if_neg (by omega), if_neg (by omega), if_neg (by omega)]

/-- A section of one line is all there is of its source. -/
theorem edge_of_single (h : s.Fragment load find total opened) (hmem : n ∈ s.range)
    (hsingle : s.range.first = s.range.last) :
    Walk.edge (opened && pre.isEmpty) total (n + s.offset) n = some (.splitOfOneLine s.range) := by
  have hbounds := LineRange.mem_iff.1 hmem
  have htotal := h.last_local
  have hopened : opened = false := by
    cases hopen : opened with
    | false => rfl
    | true =>
      have := h.first_lt_last hopen
      omega
  have hlocal := h.first_local hopened
  have hrange : s.range = .single n := by
    refine LineRange.ext ?_ ?_
    · show s.range.first = n
      omega
    · show s.range.last = n
      omega
  rw [hopened, Bool.false_and, hrange]
  unfold Walk.edge
  rw [if_neg Bool.false_ne_true, if_pos (by omega)]

/-- The first line of a section is the first of its source or the blank left of a directive. -/
theorem edge_of_first (h : s.Fragment load find total opened) (hlt : s.range.first < s.range.last)
    (hhead : n = s.range.first) :
    Walk.edge opened total (n + s.offset) n = some (.splitAtFirst n) := by
  have htotal := h.last_local
  unfold Walk.edge
  cases hopen : opened with
  | true => rw [if_pos rfl]
  | false =>
    have hlocal := h.first_local hopen
    rw [if_neg Bool.false_ne_true, if_neg (by omega), if_pos (by omega)]

/-- The last line of a section is the last of its source. -/
theorem edge_of_last (h : s.Fragment load find total opened) (hlt : s.range.first < s.range.last)
    (hend : n = s.range.last) :
    Walk.edge false total (n + s.offset) n = some (.splitAtLast n) := by
  have htotal := h.last_local
  have hlocal := s.one_le_local
  unfold Walk.edge
  rw [if_neg Bool.false_ne_true, if_neg (by omega), if_neg (by omega), if_pos (by omega)]

theorem edge_of_split (h : s.Fragment load find total opened)
    (hn : n = s.range.first + pre.length) (hmem : n ∈ s.range) {f : String → String} {e : Error}
    (hc : (s.modifyLine n f).split n = .error e) :
    ∃ cause, Walk.edge (opened && pre.isEmpty) total (n + s.offset) n = some cause ∧
      e = .reported cause none := by
  obtain ⟨hone, hfirst, hlast⟩ := split_of_edge (s := s.modifyLine n f) hmem
  rw [range_modifyLine] at hone hfirst hlast
  have hbounds := LineRange.mem_iff.1 hmem
  by_cases hsingle : s.range.first = s.range.last
  · rw [hone hsingle] at hc
    exact ⟨_, h.edge_of_single hmem hsingle, (Except.error.inj hc).symm⟩
  have hlt : s.range.first < s.range.last := by
    have := s.range.first_le_last
    omega
  by_cases hhead : n = s.range.first
  · rw [hfirst hlt hhead] at hc
    have hpre : pre = [] := List.length_eq_zero_iff.1 (by omega)
    rw [hpre, List.isEmpty_nil, Bool.and_true]
    exact ⟨_, h.edge_of_first hlt hhead, (Except.error.inj hc).symm⟩
  by_cases hend : n = s.range.last
  · rw [hlast hlt hend] at hc
    rw [isEmpty_eq_false hn (by omega), Bool.and_false]
    exact ⟨_, h.edge_of_last hlt hend, (Except.error.inj hc).symm⟩
  · have hinner : (s.modifyLine n f).range.first < n ∧ n < (s.modifyLine n f).range.last := by
      rw [range_modifyLine]
      omega
    rw [split_of_inner hinner] at hc
    cases hc

/-- A directive whose section can be opened is not refused. -/
theorem refusal_of_opened (h : s.Fragment load find total opened)
    (hnew : ¬(sourcePath base dir.target = s.path ∨ sourcePath base dir.target ∈ stack))
    (hsource : Section.load load (sourcePath base dir.target) = .ok source)
    (hc : s.Cut pre x post n upper lower) :
    Walk.refusal load base stack s.path total (opened && pre.isEmpty) (n + s.offset) n dir = none := by
  obtain ⟨y, lines, hload⟩ := exists_cons_of_load hsource
  unfold Walk.refusal
  simp only
  rw [if_neg hnew, hload, h.edge_eq_none hc]
  rfl

/-- A directive whose section cannot be opened is refused for the same reason. -/
theorem refusal_of_openAt (h : s.Fragment load find total opened)
    (hn : n = s.range.first + pre.length) (hmem : n ∈ s.range)
    (hnew : ¬(sourcePath base dir.target = s.path ∨ sourcePath base dir.target ∈ stack)) {e : Error}
    (hopen : s.openAt load (sourcePath base dir.target) n = .error e) :
    Walk.refusal load base stack s.path total (opened && pre.isEmpty) (n + s.offset) n dir =
      some (e.blaming (dir.spanAt s.path (n + s.offset))) := by
  unfold Walk.refusal
  simp only
  rw [if_neg hnew]
  rcases openAt_eq_error.1 hopen with hopen | ⟨source, hsource, hsplit⟩
  · rcases load_eq_error.1 hopen with hload | ⟨hload, rfl⟩
    · rw [hload]
    · rw [hload]
      rfl
  · obtain ⟨y, lines, hload⟩ := exists_cons_of_load hsource
    obtain ⟨cause, hedge, rfl⟩ := h.edge_of_split hn hmem hsplit
    rw [hload, hedge]
    rfl

end Fragment

end Section

namespace Scan

open Section

variable {load : Loader} {find : String → Option Directive} {base : Option String}
  {stack : List String} {above above' : Above} {s source : Section} {total : Nat} {opened : Bool}

/-! ## The walk that goes with a scan -/

theorem walk_of_directive {path : String} {pre post : List String} {x : String} {n : Int}
    {r : Except Error Int} (hlines : s.lines = pre ++ x :: post)
    (hn : n = s.range.first + pre.length) (hpre : ∀ y ∈ pre, find y = none)
    (h : Walk load find base stack path total (opened && pre.isEmpty) (n + s.offset) n (x :: post) r) :
    Walk load find base stack path total opened (s.range.first + s.offset) s.range.first s.lines
      r := by
  rw [hlines]
  refine .plain_append hpre ?_
  have hk : s.range.first + s.offset + (pre.length : Int) = n + s.offset := by omega
  rwa [hk, ← hn]

theorem first_shift_of_load {path : String} (hsource : Section.load load path = .ok source)
    (n : Int) : (source.shift (n - 1)).range.first = n := by
  obtain ⟨-, -, hfirst, -⟩ := load_eq_ok hsource
  rw [range_shift, LineRange.first_shift, hfirst, Int.add_comm, Int.sub_add_cancel]

theorem walk_of_load {path : String} {n : Int} {r : Except Error Int}
    (hsource : Section.load load path = .ok source)
    (h : Walk load find base stack path source.size false
      ((source.shift (n - 1)).range.first + (source.shift (n - 1)).offset)
      (source.shift (n - 1)).range.first (source.shift (n - 1)).lines r) :
    Walk load find base stack path source.lines.length false 1 n source.lines r := by
  obtain ⟨-, -, -, hoffset⟩ := load_eq_ok hsource
  rw [first_shift_of_load hsource, offset_shift, hoffset] at h
  have hk : n + (0 - (n - 1)) = 1 := by omega
  rwa [hk] at h

theorem walk_of_remainder {path : String} {upper lower : Section} {pre post : List String}
    {x : String} {n m : Int} {r : Except Error Int} (hc : s.Cut pre x post n upper lower)
    (h : Walk load find base stack path total true
      ((lower.shift m).range.first + (lower.shift m).offset) (lower.shift m).range.first
      (lower.shift m).lines r) :
    Walk load find base stack path total true (n + s.offset) (n + m) (Text.blank x :: post) r := by
  simp only [range_shift, LineRange.first_shift, offset_shift, lines_shift, hc.first_lower,
    hc.offset_lower, hc.lines_lower] at h
  have hk : n + m + (s.offset - m) = n + s.offset := by omega
  rwa [hk] at h

/-- When a source has been walked, what is remembered fits the stack without it. -/
theorem tracks_of_walk {path : String} {n m : Int}
    (hsource : Section.load load path = .ok source)
    (hwalk : Walk load find base stack path source.lines.length false 1 n source.lines (.ok m))
    (ht : Tracks load find base above (path :: stack)) : Tracks load find base above stack := by
  obtain ⟨hload, -⟩ := load_eq_ok hsource
  refine ht.pop fun x hx hreach => ?_
  exact Walk.not_mem_of_transGen hload (fun target h => hwalk.not_reaches h) hreach
    (List.mem_cons_of_mem _ hx)

theorem exists_cut_of_opened {upper lower : Section} {n : Int} {dir : Directive}
    (hs : s.Fragment load find total opened) (ht : Tracks load find base above (s.path :: stack))
    (hf : s.firstDirective find = some (n, dir))
    (hmem : sourcePath base dir.target ∉ chain above s.path)
    (hopen : s.openAt load (sourcePath base dir.target) n = .ok (upper, source, lower)) :
    ∃ pre x post, s.Cut pre x post n upper lower ∧ (∀ y ∈ pre, find y = none) ∧
      find x = some dir ∧ Section.load load (sourcePath base dir.target) = .ok source ∧
      Walk.refusal load base stack s.path total (opened && pre.isEmpty) (n + s.offset) n dir = none ∧
      Tracks load find base (remember above (sourcePath base dir.target) (chain above s.path))
        (sourcePath base dir.target :: s.path :: stack) := by
  obtain ⟨hsource, pre, x, post, hcut, hpre, hx⟩ := cut_of_openAt hf hopen
  have hnames := hs.names base (hcut.lines ▸ List.mem_append_right _ List.mem_cons_self) hx
  have hnew := mt (ht.mem_chain_iff_mem hnames).2 hmem
  exact ⟨pre, x, post, hcut, hpre, hx, hsource, hs.refusal_of_opened hnew hsource hcut,
    ht.push hnames⟩

/-- **A section that unfolds is walked to the end.** -/
theorem Unfolds.walk {todo out : List Section} (h : Unfolds load find base above todo above' out)
    {path : String} (htodo : todo = [s]) (hpath : s.path = path)
    (hs : s.Fragment load find total opened) (ht : Tracks load find base above (path :: stack)) :
    Walk load find base stack path total opened (s.range.first + s.offset) s.range.first s.lines
        (.ok (s.range.first + totalSize out)) ∧
      Tracks load find base above' (path :: stack) := by
  induction h generalizing s stack total opened path with
  | done => cases htodo
  | @kept above above' s rest out hf h _ =>
    cases htodo
    cases h
    subst hpath
    refine ⟨?_, ht⟩
    have hall := firstDirective_eq_none_iff.1 hf
    have hdone : Walk load find base stack s.path total (opened && s.lines.isEmpty)
        (s.range.first + s.offset + s.lines.length) (s.range.first + s.lines.length) []
        (.ok (s.range.first + s.lines.length)) := .done
    have hwalk := Walk.plain_append hall hdone
    rwa [List.append_nil] at hwalk
  | @spliced above above₁ above₂ s upper source lower rest mid out n dir hf hmem hopen _ _ ihin
      ihout =>
    cases htodo
    subst hpath
    obtain ⟨pre, x, post, hcut, hpre, hx, hsource, hrefusal, ht₁⟩ :=
      exists_cut_of_opened hs ht hf hmem hopen
    obtain ⟨hload, hpath, -, -⟩ := load_eq_ok hsource
    -- the source that is spliced in
    obtain ⟨hin, ht₁⟩ := ihin rfl hpath (Fragment.of_load hsource (n - 1)) ht₁
    have hin := walk_of_load hsource hin
    rw [first_shift_of_load hsource] at hin
    -- what is left of the section
    have hne : find x ≠ none := by
      rw [hx]
      exact Option.some_ne_none _
    obtain ⟨hout, ht₂⟩ := ihout rfl hcut.path_lower (hs.remainder hcut hne _)
      (tracks_of_walk hsource hin ht₁)
    have hout := walk_of_remainder hcut hout
    have hend : (lower.shift (totalSize mid)).range.first + totalSize out =
        s.range.first + totalSize (upper :: mid ++ out) := by
      have hupper := upper.last_eq
      have hfu := hcut.first_upper
      have hlu := hcut.last_upper
      simp only [range_shift, LineRange.first_shift, hcut.first_lower, totalSize_append,
        totalSize_cons]
      push_cast
      omega
    rw [hend] at hout
    exact ⟨walk_of_directive hcut.lines hcut.line_eq hpre (.passed hx hrefusal hload hin hout), ht₂⟩

/-- **A section that fails has a walk that meets the same error.** -/
theorem Fails.walk {todo : List Section} {e : Error} (h : Fails load find base above todo e)
    {path : String} (htodo : todo = [s]) (hpath : s.path = path)
    (hs : s.Fragment load find total opened) (ht : Tracks load find base above (path :: stack)) :
    Walk load find base stack path total opened (s.range.first + s.offset) s.range.first s.lines
      (.error e) := by
  induction h generalizing s stack total opened path with
  | later _ h =>
    cases htodo
    cases h
  | @cyclic above s rest n dir hf hmem =>
    cases htodo
    subst hpath
    obtain ⟨pre, x, post, hlines, hn, hpre, hx⟩ := exists_of_firstDirective hf
    have hnames := hs.names base (hlines ▸ List.mem_append_right _ List.mem_cons_self) hx
    refine walk_of_directive hlines hn hpre (.refused hx ?_)
    unfold Walk.refusal
    simp only
    rw [if_pos ((ht.mem_chain_iff_mem hnames).1 hmem)]
  | @refused above s rest n dir e hf hmem hopen =>
    cases htodo
    subst hpath
    obtain ⟨pre, x, post, hlines, hn, hpre, hx⟩ := exists_of_firstDirective hf
    have hnames := hs.names base (hlines ▸ List.mem_append_right _ List.mem_cons_self) hx
    have hnew := mt (ht.mem_chain_iff_mem hnames).2 hmem
    exact walk_of_directive hlines hn hpre
      (.refused hx (hs.refusal_of_openAt hn (mem_range_of_firstDirective hf) hnew hopen))
  | @inside above s upper source lower rest n dir e hf hmem hopen _ ih =>
    cases htodo
    subst hpath
    obtain ⟨pre, x, post, hcut, hpre, hx, hsource, hrefusal, ht₁⟩ :=
      exists_cut_of_opened hs ht hf hmem hopen
    obtain ⟨hload, hpath, -, -⟩ := load_eq_ok hsource
    have hin := ih rfl hpath (Fragment.of_load hsource (n - 1)) ht₁
    exact walk_of_directive hcut.lines hcut.line_eq hpre
      (.inside hx hrefusal hload (walk_of_load hsource hin))
  | @following above above₁ s upper source lower rest mid n dir e hf hmem hopen hin _ ih =>
    cases htodo
    subst hpath
    obtain ⟨pre, x, post, hcut, hpre, hx, hsource, hrefusal, ht₁⟩ :=
      exists_cut_of_opened hs ht hf hmem hopen
    obtain ⟨hload, hpath, -, -⟩ := load_eq_ok hsource
    obtain ⟨hin, ht₁⟩ := hin.walk rfl hpath (Fragment.of_load hsource (n - 1)) ht₁
    have hin := walk_of_load hsource hin
    rw [first_shift_of_load hsource] at hin
    have hne : find x ≠ none := by
      rw [hx]
      exact Option.some_ne_none _
    have hout := ih rfl hcut.path_lower (hs.remainder hcut hne _) (tracks_of_walk hsource hin ht₁)
    exact walk_of_directive hcut.lines hcut.line_eq hpre
      (.passed hx hrefusal hload hin (walk_of_remainder hcut hout))

/-- A scan of a document that holds the whole of one source has the result of the walk through it. -/
theorem walk_of_ends {source : String} {d : Document} {r : Except Error Document}
    (hd : Document.read load base source = .ok d) (h : Ends load find d r) :
    load (sourcePath base source) = .ok d.lines ∧
      Walk load find base [] (sourcePath base source) d.lines.length false 1 1 d.lines
        (r.map fun d' => 1 + d'.size) := by
  obtain ⟨s, hs, hd'⟩ := bind_eq_ok.1 hd
  cases hd'
  obtain ⟨hload, hpath, hfirst, hoffset⟩ := load_eq_ok hs
  have hfragment : s.Fragment load find s.size false := by
    rw [← s.shift_zero]
    exact .of_load hs 0
  have htracks : Tracks load find base [] (sourcePath base source :: []) := .start _
  have hcontiguous : Document.Contiguous ⟨base, [s]⟩ := ⟨hfirst, trivial⟩
  have hlines : Document.lines ⟨base, [s]⟩ = s.lines := List.append_nil s.lines
  rw [hlines]
  refine ⟨hload, ?_⟩
  rcases outcome_of_ends hcontiguous h with ⟨e, rfl, hfails⟩ | ⟨above, out, rfl, hunfolds⟩
  · have hwalk := hfails.walk rfl hpath hfragment htracks
    rwa [hfirst, hoffset] at hwalk
  · have hwalk := (hunfolds.walk rfl hpath hfragment htracks).1
    rwa [hfirst, hoffset] at hwalk

/-- **Including fails where the walk fails.** On a document that holds the whole of one source,
including fails with just the error that the walk through that source meets first, and comes to an
end without one where the walk does; its errors are all reported ones, with the span of a directive
or one of the loader's. -/
theorem including_eq_error_iff {sources : Sources} {base : Option String} {source : String}
    {d : Document}
    (hload : ∀ {path : String} {e : Error}, sources.load path = .error e → e.kind? ≠ none)
    (hd : Document.read sources.load base source = .ok d) (find : String → Option Directive) :
    sources.load (sourcePath base source) = .ok d.lines ∧
      (∀ e, d.including sources find = .error e ↔
        Walk sources.load find base [] (sourcePath base source) d.lines.length false 1 1 d.lines
          (.error e)) ∧
      ((∃ d', d.including sources find = .ok d') ↔ ∃ m,
        Walk sources.load find base [] (sourcePath base source) d.lines.length false 1 1 d.lines
          (.ok m)) ∧
      ∀ e, d.including sources find = .error e → ∃ cause span, e = .reported cause (some span) := by
  obtain ⟨hsource, hwalk⟩ := walk_of_ends hd (ends_including sources find d)
  generalize d.including sources find = r at hwalk
  refine ⟨hsource, fun e => ⟨?_, fun he => ?_⟩, ⟨?_, ?_⟩, ?_⟩
  · rintro rfl
    exact hwalk
  · cases r with
    | error e' => rw [Except.error.inj (hwalk.unique he)]
    | ok d' => cases hwalk.unique he
  · rintro ⟨d', rfl⟩
    exact ⟨_, hwalk⟩
  · rintro ⟨m, hm⟩
    cases r with
    | error e' => cases hwalk.unique hm
    | ok d' => exact ⟨d', rfl⟩
  · rintro e rfl
    exact hwalk.span_of_error hload

/-- The walk through `ring` meets the directive of `rang` that leads back to it. -/
theorem including_ring :
    Document.read Sample.sources.load none "ring" = .ok Sample.ring ∧
      Sample.ring.including Sample.sources Sample.find =
        .error (.reported (.cyclicInclude "ring" "rang") (some ⟨"rang", 2, 2, 2, 5⟩)) := by
  have hread : Document.read Sample.sources.load none "ring" = .ok Sample.ring := rfl
  obtain ⟨-, h, -, -⟩ := including_eq_error_iff Sample.kind?_ne_none hread Sample.find
  refine ⟨hread, (h _).2 ?_⟩
  exact .plain rfl (.inside rfl rfl rfl (.plain rfl (.refused rfl rfl)))

end Scan

end Patchwork
