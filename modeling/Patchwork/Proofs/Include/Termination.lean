import Mathlib.Data.List.Count
import Patchwork.Proofs.Include.Run

/-!
# Scans are over

A scan makes the document grow and goes back to where it found a directive, so neither the lines nor
the cursor tell how far it has come. What goes down with each step is its `potential`. A section
counts for all its lines but one, each with the weight of its source, which is a power: the base
exceeds the number of lines of all sources, and the exponent, the `room` of the source, is the number
of targets that are not in its chain. A splice takes one weight from the section it cuts, and what it
puts in comes from a source with less room. A step that moves on leaves all weights and lowers the
number of sections `ahead`.

Nothing is asked of the order of the sections. Where they overlap a splice fails, and so the scan is
over (`Document.insert_eq_ok`).
-/

namespace Patchwork

namespace Section

/-! ## Weighing sections -/

/-- All lines but one of each section, weighed by `weight` of its source. -/
def bulk (weight : String → Nat) : List Section → Nat
  | [] => 0
  | s :: rest => (s.size - 1) * weight s.path + bulk weight rest

variable {weight weight' : String → Nat}

@[simp] theorem bulk_nil : bulk weight [] = 0 := rfl

@[simp] theorem bulk_cons (s : Section) (l : List Section) :
    bulk weight (s :: l) = (s.size - 1) * weight s.path + bulk weight l := rfl

@[simp] theorem bulk_append (l₁ l₂ : List Section) :
    bulk weight (l₁ ++ l₂) = bulk weight l₁ + bulk weight l₂ := by
  induction l₁ with
  | nil => simp
  | cons s l₁ ih => rw [List.cons_append, bulk_cons, bulk_cons, ih, Nat.add_assoc]

@[simp] theorem bulk_map_shift (l : List Section) (n : Int) :
    bulk weight (l.map (·.shift n)) = bulk weight l := by
  induction l with
  | nil => rfl
  | cons s l ih => rw [List.map_cons, bulk_cons, bulk_cons, ih, size_shift, path_shift]

theorem bulk_perm {l₁ l₂ : List Section} (h : l₁.Perm l₂) : bulk weight l₁ = bulk weight l₂ := by
  induction h with
  | nil => rfl
  | cons s _ ih => rw [bulk_cons, bulk_cons, ih]
  | swap s t l => rw [bulk_cons, bulk_cons, bulk_cons, bulk_cons, Nat.add_left_comm]
  | trans _ _ ih₁ ih₂ => exact ih₁.trans ih₂

theorem bulk_le_bulk (h : ∀ path, weight' path ≤ weight path) (l : List Section) :
    bulk weight' l ≤ bulk weight l := by
  induction l with
  | nil => exact Nat.le_refl _
  | cons s l ih => exact Nat.add_le_add (Nat.mul_le_mul_left _ (h s.path)) ih

theorem bulk_le {b : Nat} (h : ∀ path, weight path ≤ b) (l : List Section) :
    bulk weight l ≤ totalSize l * b := by
  induction l with
  | nil => exact Nat.zero_le _
  | cons s l ih =>
    rw [bulk_cons, totalSize_cons, Nat.add_mul]
    exact Nat.add_le_add (Nat.mul_le_mul (Nat.sub_le _ _) (h s.path)) ih

theorem bulk_modifyLine (n : Int) (f : String → String) (l : List Section) :
    bulk weight (Document.modifyLine n f l) = bulk weight l := by
  induction l with
  | nil => rfl
  | cons s l ih =>
    rw [Document.modifyLine]
    split
    · rw [bulk_cons, bulk_cons, size_modifyLine, path_modifyLine]
    · rw [bulk_cons, bulk_cons, ih]

/-- How many of the sections end at the line `n` or after it. -/
def ahead (n : Int) (l : List Section) : Nat := l.countP fun s => n ≤ s.range.last

theorem ahead_le_length (n : Int) (l : List Section) : ahead n l ≤ l.length := List.countP_le_length

theorem ahead_append (n : Int) (l₁ l₂ : List Section) :
    ahead n (l₁ ++ l₂) = ahead n l₁ + ahead n l₂ := List.countP_append

theorem ahead_perm {l₁ l₂ : List Section} (h : l₁.Perm l₂) (n : Int) : ahead n l₁ = ahead n l₂ :=
  h.countP_eq _

theorem ahead_modifyLine (n k : Int) (f : String → String) (l : List Section) :
    ahead k (Document.modifyLine n f l) = ahead k l := by
  have hr := congrArg (List.countP fun r => k ≤ r.last) (Document.map_range_modifyLine n f l)
  rwa [List.countP_map, List.countP_map] at hr

theorem ahead_of_forall_lt {n : Int} {l : List Section} (h : ∀ s ∈ l, s.range.last < n) :
    ahead n l = 0 := by
  refine List.countP_eq_zero.2 fun s hs => ?_
  have := h s hs
  simp only [decide_eq_true_eq]
  omega

theorem ahead_of_forall_le {n : Int} {l : List Section} (h : ∀ s ∈ l, n ≤ s.range.last) :
    ahead n l = l.length := by
  refine List.countP_eq_length.2 fun s hs => ?_
  simpa using h s hs

theorem ahead_lt {n : Int} {s : Section} {l : List Section} (hs : s ∈ l) (hn : n ≤ s.range.last) :
    ahead (s.range.last + 1) l < ahead n l := by
  obtain ⟨before, after, rfl⟩ := List.append_of_mem hs
  have hle : ∀ l, ahead (s.range.last + 1) l ≤ ahead n l := fun l =>
    List.countP_mono_left fun t _ ht => by
      simp only [decide_eq_true_eq] at ht ⊢
      omega
  have hbefore := hle before
  have hafter := hle after
  have hs₁ : ahead (s.range.last + 1) (s :: after) = ahead (s.range.last + 1) after :=
    List.countP_cons_of_neg (by simp only [decide_eq_true_eq]; omega)
  have hs₂ : ahead n (s :: after) = ahead n after + 1 :=
    List.countP_cons_of_pos (by simpa using hn)
  rw [ahead_append, ahead_append, hs₁, hs₂]
  omega

/-! ## Splices -/

section Splice

variable {target upper lower s : Section} {n : Int}

/-- A cut takes one weight from the section, which has to make up for all lines but one of what is
spliced in. -/
theorem bulk_splice (before after : List Section) (hc : target.split n = .ok (upper, lower))
    (hle : ∀ path, weight' path ≤ weight path)
    (hlt : (s.size - 1) * weight' s.path + 2 < weight target.path) :
    bulk weight' (splice before upper s lower after) + 2 <
      bulk weight (before ++ target :: after) := by
  obtain ⟨_, hupper, hlower⟩ := split_eq_ok.1 hc
  have hparts : (target.size - 1) * weight target.path =
      (upper.size - 1) * weight target.path + (lower.size - 1) * weight target.path +
        weight target.path := by
    have hsize := size_of_split hc
    have hupos := upper.size_pos
    have hlpos := lower.size_pos
    have hsum : target.size - 1 = (upper.size - 1) + (lower.size - 1) + 1 := by omega
    rw [hsum, Nat.add_mul, Nat.add_mul, Nat.one_mul]
  have hb := bulk_le_bulk hle before
  have ha := bulk_le_bulk hle after
  have hu : (upper.size - 1) * weight' upper.path ≤ (upper.size - 1) * weight target.path := by
    rw [hupper]
    exact Nat.mul_le_mul_left _ (hle target.path)
  have hl : (lower.size - 1) * weight' lower.path ≤ (lower.size - 1) * weight target.path := by
    rw [hlower]
    exact Nat.mul_le_mul_left _ (hle target.path)
  simp only [splice, bulk_append, bulk_cons, List.map_cons, bulk_map_shift, size_shift, path_shift]
  omega

/-- Going back to the beginning of a section that has been cut brings two more sections ahead. -/
theorem ahead_splice {before after : List Section} {cursor : Int} (s : Section)
    (ho : Ordered (before ++ target :: after)) (hc : target.split n = .ok (upper, lower))
    (hcursor : cursor ∈ target.range) :
    ahead target.range.first (splice before upper s lower after) ≤
      ahead cursor (before ++ target :: after) + 2 := by
  obtain ⟨-, hafter, hbefore⟩ := List.pairwise_append.1 ho
  have hpast : ahead target.range.first before = 0 :=
    ahead_of_forall_lt fun t ht => hbefore t ht target List.mem_cons_self
  have hold : ahead cursor (target :: after) = (target :: after).length := by
    refine ahead_of_forall_le fun t ht => ?_
    have hcur := (LineRange.mem_iff.1 hcursor).2
    rcases List.mem_cons.1 ht with rfl | ht
    · exact hcur
    · have := (List.pairwise_cons.1 hafter).1 t ht
      have := t.range.first_le_last
      omega
  have hnew := ahead_le_length target.range.first
    (upper :: s.shift (upper.range.last - s.range.first + 1) ::
      (lower :: after).map (·.shift s.size))
  simp only [List.length_cons, List.length_map] at hnew hold
  rw [splice, ahead_append, ahead_append]
  omega

end Splice

end Section

namespace Scan

open Section

variable {load : Loader} {find : String → Option Directive}

/-! ## Room for further sources -/

/-- How many of the targets are not in the chain of the source at `path`. -/
def room (targets : List String) (above : List (String × List String)) (path : String) : Nat :=
  targets.countP (· ∉ chain above path)

theorem room_le_length (targets : List String) (above : List (String × List String))
    (path : String) : room targets above path ≤ targets.length := List.countP_le_length

theorem mem_chain_remember {above : List (String × List String)} {path t x : String}
    {above' : List String} (h : x ∈ chain above t) : x ∈ chain (remember above path above') t := by
  rw [mem_chain_iff] at h ⊢
  exact h.imp_right fun h => mem_sourcesAbove_remember.2 (Or.inr h)

theorem room_remember_le (targets : List String) (above : List (String × List String))
    (path : String) (above' : List String) (t : String) :
    room targets (remember above path above') t ≤ room targets above t := by
  refine List.countP_mono_left fun x _ hx => ?_
  simp only [decide_eq_true_eq] at hx ⊢
  exact fun h => hx (mem_chain_remember h)

theorem room_remember_lt {targets : List String} {above : List (String × List String)}
    {path host : String} (hpath : path ∈ targets) (hnew : path ∉ chain above host) :
    room targets (remember above path (chain above host)) path < room targets above host := by
  have hchain : ∀ x ∈ chain above host, x ∈ chain (remember above path (chain above host)) path :=
    fun x hx => mem_chain_iff.2 (Or.inr (mem_sourcesAbove_remember.2 (Or.inl ⟨rfl, hx⟩)))
  have hself : path ∈ chain (remember above path (chain above host)) path :=
    mem_chain_iff.2 (Or.inl rfl)
  -- both counts are taken among the targets outside the chain of the host
  have hcount : room targets (remember above path (chain above host)) path =
      (targets.filter (· ∉ chain above host)).countP
        (· ∉ chain (remember above path (chain above host)) path) := by
    rw [room, List.countP_filter]
    refine List.countP_congr fun x _ => ?_
    simp only [decide_eq_true_eq, Bool.and_eq_true]
    exact ⟨fun h => ⟨h, fun hx => h (hchain x hx)⟩, fun h => h.1⟩
  rw [hcount, room, List.countP_eq_length_filter (l := targets), List.countP_lt_length_iff]
  exact ⟨path, List.mem_filter.2 ⟨hpath, by simpa using hnew⟩, by simpa using hself⟩

/-! ## The lines a scan stays among -/

/-- The lines of the texts and the blanks of all the lines are among them. -/
structure Pool (texts : List (List String)) (pool : List String) : Prop where
  blank : ∀ x ∈ pool, Text.blank x ∈ pool
  texts : ∀ ls ∈ texts, ∀ x ∈ ls, x ∈ pool

/-- The lines of a document and of the texts, and their blanks. -/
def poolOf (texts : List (List String)) (d : Document) : List String :=
  (d.lines ++ texts.flatten) ++ (d.lines ++ texts.flatten).map Text.blank

theorem pool_poolOf (texts : List (List String)) (d : Document) : Pool texts (poolOf texts d) := by
  constructor
  · intro x hx
    rcases List.mem_append.1 hx with hx | hx
    · exact List.mem_append_right _ (List.mem_map_of_mem hx)
    · obtain ⟨y, hy, rfl⟩ := List.mem_map.1 hx
      rw [Text.blank_blank]
      exact List.mem_append_right _ (List.mem_map_of_mem hy)
  · intro ls hls x hx
    exact List.mem_append_left _ (List.mem_append_right _ (List.mem_flatten_of_mem hls hx))

theorem length_poolOf (texts : List (List String)) (d : Document) :
    (poolOf texts d).length = 2 * (texts.flatten.length + d.size) := by
  simp only [poolOf, List.length_append, List.length_map, d.length_lines]
  omega

/-- The paths of the sources that the lines name. -/
def targetsIn (find : String → Option Directive) (base : Option String) (pool : List String) :
    List String :=
  pool.filterMap fun x => (find x).map fun dir => sourcePath base dir.target

theorem mem_targetsIn {base : Option String} {pool : List String} {x : String} {dir : Directive}
    (hx : x ∈ pool) (hdir : find x = some dir) :
    sourcePath base dir.target ∈ targetsIn find base pool :=
  List.mem_filterMap.2 ⟨x, hx, by rw [hdir]; rfl⟩

/-- The scan works on a document with the given base, all lines of which are among `pool`. -/
structure Within (base : Option String) (pool : List String) (s : Scan) : Prop where
  base_eq : s.document.base = base
  mem_pool : ∀ t ∈ s.document.sections, ∀ x ∈ t.lines, x ∈ pool

/-! ## Steps lower the potential -/

/-- The weight of a source, for sources that have `total` lines between them. -/
def weight (total : Nat) (targets : List String) (above : List (String × List String))
    (path : String) : Nat :=
  Nat.pow (total + 3) (room targets above path)

/-- What is left to do, at most. -/
def potential (total : Nat) (targets : List String) (s : Scan) : Nat :=
  bulk (weight total targets s.above) s.document.sections + ahead s.cursor s.document.sections

/-- Something of greater weight makes up for all lines but one of a source, and for two sections. -/
theorem lines_mul_weight_lt {total size k m : Nat} (hsize : size ≤ total) (h : k < m) :
    (size - 1) * Nat.pow (total + 3) k + 2 < Nat.pow (total + 3) m := by
  have hpos : 0 < Nat.pow (total + 3) k := Nat.pow_pos (by omega)
  have hmono : Nat.pow (total + 3) (k + 1) ≤ Nat.pow (total + 3) m :=
    Nat.pow_le_pow_right (by omega) h
  have hsucc : Nat.pow (total + 3) (k + 1) = Nat.pow (total + 3) k * (total + 3) := rfl
  have hlines : (size - 1) * Nat.pow (total + 3) k ≤ total * Nat.pow (total + 3) k :=
    Nat.mul_le_mul_right _ (by omega)
  rw [Nat.mul_comm, Nat.add_mul] at hsucc
  omega

variable {sources : Sources} {base : Option String} {pool : List String} {s s' : Scan}

theorem potential_of_kept {host : Section} (total : Nat) (targets : List String)
    (hhost : s.document.sectionAt? s.cursor = some host) :
    potential total targets { s with cursor := host.range.last + 1 } < potential total targets s := by
  obtain ⟨hmem, hcursor⟩ := Document.mem_of_sectionAt? hhost
  exact Nat.add_lt_add_left (ahead_lt hmem (LineRange.mem_iff.1 hcursor).2) _

/-- What a splice at a directive of the section `host` puts in the place of the sections: up to
order, and but for the text of one line, `host` is exchanged for the two parts of a cut and the
source. -/
theorem exists_splice {d blanked d' : Document} {host : Section} {cursor n : Int}
    {dir : Directive} {target : String} (hhost : d.sectionAt? cursor = some host)
    (hf : host.firstDirective find = some (n, dir))
    (hb : d.update n Text.blank = .ok blanked)
    (hi : blanked.insertSource load target n = .ok d') :
    ∃ before host' after upper lower source,
      (before ++ host' :: after).Perm (Document.modifyLine n Text.blank d.sections) ∧
      Ordered (before ++ host' :: after) ∧ host'.path = host.path ∧ host'.range = host.range ∧
      host'.split n = .ok (upper, lower) ∧
      Section.load load (sourcePath d.base target) = .ok source ∧
      d' = { d with sections := splice before upper source lower after } := by
  obtain ⟨-, rfl⟩ := Document.update_eq_ok hb
  obtain ⟨source, hsource, hi⟩ := bind_eq_ok.1 hi
  obtain ⟨before, host', after, upper, lower, hin, ho, hn, hc, rfl⟩ := Document.insert_eq_ok hi
  have hperm := inOrder_perm (Document.modifyLine n Text.blank d.sections)
  rw [hin] at hperm
  refine ⟨before, host', after, upper, lower, source, hperm, ho, ?_⟩
  -- without overlap there is only one section that holds the line
  have hmem : (host.path, host.range) ∈
      (before ++ host' :: after).map fun t => (t.path, t.range) := by
    refine (hperm.map _).mem_iff.2 ?_
    rw [Document.map_modifyLine n Text.blank (fun _ => rfl)]
    exact List.mem_map_of_mem (Document.mem_of_sectionAt? hhost).1
  obtain ⟨t, ht, heq⟩ := List.mem_map.1 hmem
  obtain ⟨hpath, hrange⟩ := Prod.mk.inj heq
  have hnt : n ∈ t.range := hrange ▸ mem_range_of_firstDirective hf
  obtain ⟨hbefore, hafter⟩ := ho.not_mem_of_mem hn
  rcases List.mem_append.1 ht with ht | ht
  · exact absurd hnt (hbefore t ht)
  rcases List.mem_cons.1 ht with rfl | ht
  · exact ⟨hpath, hrange, hc, hsource, rfl⟩
  · exact absurd hnt (hafter t ht)

theorem potential_of_spliced {total : Nat} {targets : List String}
    {above : List (String × List String)} {before after : List Section}
    {host upper lower source : Section} {n cursor : Int}
    (ho : Ordered (before ++ host :: after)) (hc : host.split n = .ok (upper, lower))
    (hsize : source.size ≤ total) (htarget : source.path ∈ targets)
    (hnew : source.path ∉ chain above host.path) (hcursor : cursor ∈ host.range) :
    bulk (weight total targets (remember above source.path (chain above host.path)))
        (splice before upper source lower after) +
      ahead host.range.first (splice before upper source lower after) <
    bulk (weight total targets above) (before ++ host :: after) +
      ahead cursor (before ++ host :: after) := by
  have hle : ∀ t, weight total targets (remember above source.path (chain above host.path)) t ≤
      weight total targets above t := fun t =>
    Nat.pow_le_pow_right (by omega) (room_remember_le targets above _ _ t)
  have hlt : (source.size - 1) *
        weight total targets (remember above source.path (chain above host.path)) source.path + 2 <
      weight total targets above host.path :=
    lines_mul_weight_lt hsize (room_remember_lt htarget hnew)
  have hbulk := bulk_splice before after hc hle hlt
  have hahead := ahead_splice source ho hc hcursor
  omega

/-- **Every step lowers the potential.** -/
theorem potential_step (hpool : Pool sources.texts pool) (hs : Within base pool s)
    (h : s.step sources.load find = .ok (.going s')) :
    Within base pool s' ∧
      potential sources.texts.flatten.length (targetsIn find base pool) s' <
        potential sources.texts.flatten.length (targetsIn find base pool) s := by
  rcases step_eq_ok h with ⟨-, hp⟩ | ⟨host, hhost, ⟨-, hp⟩ | ⟨n, dir, blanked, d', hf, hnew, hb, hi, hp⟩⟩
  · cases hp
  · cases hp
    exact ⟨⟨hs.base_eq, hs.mem_pool⟩, potential_of_kept _ _ hhost⟩
  · cases hp
    obtain ⟨before, host', after, upper, lower, source, hperm, ho, hpath, hrange, hc, hsource, rfl⟩ :=
      exists_splice hhost hf hb hi
    obtain ⟨hload, hsrc, -, -⟩ := load_eq_ok hsource
    obtain ⟨hmem, hcursor⟩ := Document.mem_of_sectionAt? hhost
    obtain ⟨pre, x, post, hlines, -, -, hx⟩ := exists_of_firstDirective hf
    have htext : source.lines ∈ sources.texts := sources.mem_texts hload
    have hsize : source.size ≤ sources.texts.flatten.length :=
      (List.sublist_flatten_of_mem htext).length_le
    have htarget : sourcePath s.document.base dir.target ∈ targetsIn find base pool := by
      rw [hs.base_eq]
      refine mem_targetsIn (hs.mem_pool host hmem x ?_) hx
      rw [hlines]
      exact List.mem_append_right _ List.mem_cons_self
    have hmod : ∀ t ∈ before ++ host' :: after, ∀ y ∈ t.lines, y ∈ pool := fun t ht =>
      Document.forall_mem_modifyLine hs.mem_pool hpool.blank t (hperm.mem_iff.1 ht)
    refine ⟨⟨hs.base_eq, forall_mem_splice hc hmod fun y hy => hpool.texts _ htext y hy⟩, ?_⟩
    rw [← hsrc] at htarget hnew
    have hlt := potential_of_spliced ho hc hsize htarget (hpath ▸ hnew) (hrange ▸ hcursor)
    rw [bulk_perm hperm, ahead_perm hperm, bulk_modifyLine, ahead_modifyLine, hpath, hrange, hsrc] at hlt
    exact hlt

/-- A scan is over after as many steps as its potential, and one more. -/
theorem exists_run_eq_some (hpool : Pool sources.texts pool) {rounds : Nat} (hs : Within base pool s)
    (h : potential sources.texts.flatten.length (targetsIn find base pool) s < rounds) :
    ∃ r, run sources.load find rounds s = some r := by
  induction rounds generalizing s with
  | zero => exact absurd h (Nat.not_lt_zero _)
  | succ rounds ih =>
    rw [run]
    cases hstep : s.step sources.load find with
    | error e => exact ⟨.error e, rfl⟩
    | ok p =>
      cases p with
      | finished d => exact ⟨.ok d, rfl⟩
      | going s' =>
        obtain ⟨hs', hlt⟩ := potential_step hpool hs hstep
        exact ih hs' (by omega)

/-! ## The round limit -/

theorem potential_start_lt (texts : List (List String)) (d : Document) (base : Option String) :
    potential texts.flatten.length (targetsIn find base (poolOf texts d)) (.start d) <
      roundLimit texts d := by
  have htargets : (targetsIn find base (poolOf texts d)).length ≤
      2 * (texts.flatten.length + d.size) := by
    rw [← length_poolOf]
    exact List.length_filterMap_le _ _
  have hweight : ∀ path, weight texts.flatten.length (targetsIn find base (poolOf texts d)) [] path ≤
      Nat.pow (texts.flatten.length + 3) (2 * (texts.flatten.length + d.size) + 1) := by
    intro path
    have := room_le_length (targetsIn find base (poolOf texts d)) [] path
    exact Nat.pow_le_pow_right (by omega) (by omega)
  have hbulk := bulk_le hweight d.sections
  have hahead := ahead_le_length 1 d.sections
  exact Nat.lt_succ_of_le (Nat.add_le_add hbulk hahead)

theorem exists_run_roundLimit (sources : Sources) (find : String → Option Directive) (d : Document) :
    ∃ r, run sources.load find (roundLimit sources.texts d) (.start d) = some r := by
  have hstart : Within d.base (poolOf sources.texts d) (.start d) := by
    refine ⟨rfl, fun t ht x hx => ?_⟩
    refine List.mem_append_left _ (List.mem_append_left _ ?_)
    exact List.mem_flatMap.2 ⟨t, ht, hx⟩
  exact exists_run_eq_some (pool_poolOf sources.texts d) hstart
    (potential_start_lt sources.texts d d.base)

/-- Including gives what the scan is over with, and is never cut off. -/
theorem ends_including (sources : Sources) (find : String → Option Directive) (d : Document) :
    Ends sources.load find d (d.including sources find) := by
  obtain ⟨r, hr⟩ := exists_run_roundLimit sources find d
  refine ⟨roundLimit sources.texts d, ?_⟩
  rw [Document.including]
  simp only [hr, Option.getD_some]

theorem run_add {rounds : Nat} {s : Scan} {r : Except Error Document}
    (h : run load find rounds s = some r) (k : Nat) : run load find (rounds + k) s = some r := by
  induction rounds generalizing s with
  | zero => cases h
  | succ rounds ih =>
    rw [Nat.succ_add, run]
    rw [run] at h
    cases hstep : s.step load find with
    | error e => rwa [hstep] at h
    | ok p =>
      rw [hstep] at h
      cases p with
      | finished d => exact h
      | going s' => exact ih h

theorem Ends.unique {d : Document} {r r' : Except Error Document} (h : Ends load find d r)
    (h' : Ends load find d r') : r = r' := by
  obtain ⟨rounds, h⟩ := h
  obtain ⟨rounds', h'⟩ := h'
  have e := run_add h rounds'
  rw [Nat.add_comm, run_add h' rounds] at e
  exact (Option.some.inj e).symm

theorem ends_iff (sources : Sources) (find : String → Option Directive) (d : Document)
    (r : Except Error Document) : Ends sources.load find d r ↔ d.including sources find = r := by
  constructor
  · intro h
    exact (ends_including sources find d).unique h
  · rintro rfl
    exact ends_including sources find d

end Scan

/-- A loader that gives texts for some of the paths only. -/
def Sources.onPaths (load : Loader) (paths : List String)
    (h : ∀ {path : String} {ls : List String}, load path = .ok ls → path ∈ paths) : Sources where
  load := load
  texts := paths.filterMap fun path => (load path).toOption
  mem_texts := fun hl => List.mem_filterMap.2 ⟨_, h hl, by rw [hl]; rfl⟩

namespace Scan

/-- **Scans terminate.** Whatever the sections of a document, the directives and the inclusions
between its sources, a scan is over after a number of steps that can be told beforehand, with a
document or an error, as long as there are texts for finitely many paths only. -/
theorem terminates {load : Loader} {paths : List String}
    (hpaths : ∀ {path : String} {ls : List String}, load path = .ok ls → path ∈ paths)
    (find : String → Option Directive) (d : Document) :
    ∃ r, run load find (roundLimit (Sources.onPaths load paths hpaths).texts d) (.start d) = some r ∧
      d.including (.onPaths load paths hpaths) find = r ∧ ∀ r', Ends load find d r' ↔ r' = r := by
  obtain ⟨r, hr⟩ := exists_run_roundLimit (.onPaths load paths hpaths) find d
  have hends : Ends load find d r := ⟨_, hr⟩
  refine ⟨r, hr, (ends_iff _ find d r).1 hends, fun r' => ?_⟩
  constructor
  · intro h
    exact h.unique hends
  · rintro rfl
    exact hends

/-- Sources that include each other do not keep a scan going. -/
theorem terminates_ring : Sources.loadStored Sample.stored "ring" = .ok ["f", "@rang", "g"] ∧
    Sample.ring.including (.onPaths (Sources.loadStored Sample.stored) _ Sample.mem_paths) Sample.find =
      .error (.reported (.cyclicInclude "ring" "rang") (some ⟨"rang", 2, 2, 2, 5⟩)) := by
  refine ⟨rfl, ?_⟩
  obtain ⟨r, -, hr, h⟩ := terminates Sample.mem_paths Sample.find Sample.ring
  rw [hr]
  exact ((h _).1 ⟨20, rfl⟩).symm

end Scan

end Patchwork
