import Patchwork.Proofs.Document.Located

/-!
# Provenance

Every line of a document comes from a line of a source, also when splices have moved it many times and
its text has been changed on the way. A `Trail` is a line with its history. What operations do to
trails is told without sections and line ranges (`Operation.Carries`): a splice puts new trails
between old ones, a change is noted on the trail of the line it is made to.

A document and the trails of its lines go through the same operations side by side
(`Operation.exists_carries`), so the place that a line resolves to is where its trail begins, and its
text is the text there with the changes on the trail made to it (`provenance_of_runs`).
-/

namespace Patchwork

/-- A line with the place and the text it was read with, and the changes made to the text since, the
earliest first. -/
structure Trail where
  place : Location
  original : String
  changes : List (String → String)

namespace Trail

def text (t : Trail) : String := t.changes.foldl (fun x f => f x) t.original

def change (f : String → String) (t : Trail) : Trail := { t with changes := t.changes ++ [f] }

/-- What a document shows of the line. -/
def entry (t : Trail) : String × Location := (t.text, t.place)

/-- The lines of the source at `path` from its line `k` on, as they are read. -/
def fresh (path : String) (k : Int) : List String → List Trail
  | [] => []
  | x :: rest => ⟨⟨path, k⟩, x, []⟩ :: fresh path (k + 1) rest

@[simp] theorem text_change (f : String → String) (t : Trail) : (t.change f).text = f t.text := by
  simp [text, change]

theorem entry_change (f : String → String) (t : Trail) :
    (t.change f).entry = Prod.map f id t.entry := by
  rw [entry, text_change]
  rfl

@[simp] theorem map_entry_fresh (path : String) (k : Int) (xs : List String) :
    (fresh path k xs).map entry = placedFrom path k xs := by
  induction xs generalizing k with
  | nil => rfl
  | cons x xs ih =>
    rw [fresh, List.map_cons, ih, placedFrom]
    rfl

theorem map_entry_modify (f : String → String) (ts : List Trail) (i : Nat) :
    (ts.modify i (change f)).map entry = (ts.map entry).modify i (Prod.map f id) := by
  induction ts generalizing i with
  | nil => rw [List.modify_nil, List.map_nil, List.modify_nil]
  | cons t ts ih =>
    cases i with
    | zero => simp [entry_change]
    | succ i => simp [ih]

/-- Texts changed by blanking alone are the original or its blank. -/
theorem text_of_blanks {t : Trail} (h : ∀ f ∈ t.changes, f = Text.blank) :
    t.text = t.original ∨ t.text = Text.blank t.original := by
  have hfold : ∀ (changes : List (String → String)) (x : String), (∀ f ∈ changes, f = Text.blank) →
      (x = t.original ∨ x = Text.blank t.original) →
      changes.foldl (fun x f => f x) x = t.original ∨
        changes.foldl (fun x f => f x) x = Text.blank t.original := by
    intro changes
    induction changes with
    | nil => exact fun x _ hx => hx
    | cons f changes ih =>
      intro x hf hx
      obtain ⟨rfl, hrest⟩ := List.forall_mem_cons.1 hf
      refine ih (Text.blank x) hrest (Or.inr ?_)
      rcases hx with rfl | rfl
      · rfl
      · exact Text.blank_blank _
  exact hfold t.changes t.original h (Or.inl rfl)

/-- The second list is the first after including: every line that is a directive is blanked, and comes
after all the lines that the source it names leads to. -/
inductive Spread (load : Loader) (find : String → Option Directive) (base : Option String) :
    List Trail → List Trail → Prop
  | nil : Spread load find base [] []
  | plain {t : Trail} {rest out : List Trail} (ht : find t.text = none)
      (h : Spread load find base rest out) : Spread load find base (t :: rest) (t :: out)
  | directive {t : Trail} {dir : Directive} {lines : List String} {rest inner out : List Trail}
      (ht : find t.text = some dir) (hl : load (sourcePath base dir.target) = .ok lines)
      (hin : Spread load find base (fresh (sourcePath base dir.target) 1 lines) inner)
      (hout : Spread load find base rest out) :
      Spread load find base (t :: rest) (inner ++ t.change Text.blank :: out)

namespace Spread

variable {load : Loader} {find : String → Option Directive} {base : Option String}

theorem unique {ts out out' : List Trail} (h : Spread load find base ts out)
    (h' : Spread load find base ts out') : out = out' := by
  induction h generalizing out' with
  | nil => cases h'; rfl
  | plain ht _ ih =>
    cases h' with
    | plain _ h' => rw [ih h']
    | directive ht' => rw [ht] at ht'; cases ht'
  | directive ht hl _ _ ihin ihout =>
    cases h' with
    | plain ht' => rw [ht] at ht'; cases ht'
    | directive ht' hl' hin' hout' =>
      obtain rfl := Option.some.inj (ht.symm.trans ht')
      obtain rfl := Except.ok.inj (hl.symm.trans hl')
      rw [ihin hin', ihout hout']

/-- An expansion of what trails show is followed by the trails. -/
theorem exists_of_expansion {entries out : List (String × Location)}
    (h : Expansion load find base entries out) {ts : List Trail} (hts : ts.map entry = entries) :
    ∃ ts', Spread load find base ts ts' ∧ ts'.map entry = out := by
  induction h generalizing ts with
  | nil =>
    obtain rfl := List.map_eq_nil_iff.1 hts
    exact ⟨[], .nil, rfl⟩
  | @plain x q rest out hx _ ih =>
    obtain ⟨t, rest, rfl, ht, hrest⟩ := List.map_eq_cons_iff.1 hts
    obtain ⟨rfl, rfl⟩ := Prod.mk.inj ht
    obtain ⟨ts', hts', rfl⟩ := ih hrest
    exact ⟨t :: ts', .plain hx hts', rfl⟩
  | @directive x q dir lines rest inner out hx hl _ _ ihin ihout =>
    obtain ⟨t, rest, rfl, ht, hrest⟩ := List.map_eq_cons_iff.1 hts
    obtain ⟨rfl, rfl⟩ := Prod.mk.inj ht
    obtain ⟨tin, hin, rfl⟩ := ihin (map_entry_fresh _ 1 lines)
    obtain ⟨tout, hout, rfl⟩ := ihout hrest
    refine ⟨tin ++ t.change Text.blank :: tout, .directive hx hl hin hout, ?_⟩
    rw [List.map_append, List.map_cons, entry_change]
    rfl

end Spread

end Trail

/-! ## Operations -/

/-- What is done to documents: a source is spliced in at a line, a line is changed, directives are
included, or lines are blanked. -/
inductive Operation where
  | insertion (source : String) (n : Int)
  | change (n : Int) (f : String → String)
  | inclusion (find : String → Option Directive)
  | blanking (p : String → Bool)

namespace Operation

variable {load : Loader} {base : Option String} {op : Operation} {ts ts' : List Trail}

/-- Is this what a macro does? -/
def isPass : Operation → Bool
  | insertion .. | change .. => false
  | inclusion _ | blanking _ => true

/-- The operation succeeds on the document `d` and makes `d'` of it. -/
def Turns (load : Loader) (d d' : Document) : Operation → Prop
  | insertion source n => d.insertSource load source n = .ok d'
  | change n f => d.update n f = .ok d'
  | inclusion find => Scan.Ends load find d (.ok d')
  | blanking p => d.blanking p = .ok d'

/-- Is `f` what the operation makes of the text of a line? -/
def Applies (f : String → String) : Operation → Prop
  | insertion .. => False
  | change _ g => f = g
  | inclusion _ | blanking _ => f = fun x => String.ofList (List.replicate x.length ' ')

/-- What the operation makes of the trails of all lines. -/
inductive Carries (load : Loader) (base : Option String) :
    Operation → List Trail → List Trail → Prop
  | insertion {source : String} {n : Int} {lines : List String} {ts : List Trail}
      (hl : load (sourcePath base source) = .ok lines) :
      Carries load base (.insertion source n) ts (ts.take (n - 1).toNat ++
        Trail.fresh (sourcePath base source) 1 lines ++ ts.drop (n - 1).toNat)
  | change {n : Int} {f : String → String} {ts : List Trail} :
      Carries load base (.change n f) ts (ts.modify (n - 1).toNat (Trail.change f))
  | inclusion {find : String → Option Directive} {ts ts' : List Trail}
      (h : Trail.Spread load find base ts ts') : Carries load base (.inclusion find) ts ts'
  | blanking {p : String → Bool} {ts : List Trail} :
      Carries load base (.blanking p) ts
        (ts.map fun t => if p t.text then t.change Text.blank else t)

theorem Carries.unique {ts'' : List Trail} (h : op.Carries load base ts ts')
    (h' : op.Carries load base ts ts'') : ts'' = ts' := by
  cases h with
  | insertion hl =>
    cases h' with
    | insertion hl' => rw [Except.ok.inj (hl'.symm.trans hl)]
  | change => cases h'; rfl
  | inclusion h =>
    cases h' with
    | inclusion h' => exact h'.unique h
  | blanking => cases h'; rfl

/-- **Trails keep up with documents.** -/
theorem exists_carries {d d' : Document} (hd : d.Sound) (hop : op.Turns load d d')
    (hts : ts.map Trail.entry = d.located) :
    d'.Sound ∧ d'.base = d.base ∧
      ∃ ts', op.Carries load d.base ts ts' ∧ ts'.map Trail.entry = d'.located := by
  cases op with
  | insertion source n =>
    obtain ⟨s, hs, hi⟩ := bind_eq_ok.1 hop
    obtain ⟨hload, hsource⟩ := Section.located_of_load hs
    refine ⟨hd.insert hi, Document.insert_base hi, _, .insertion hload, ?_⟩
    rw [hd.contiguous.located_insert hi, hsource, ← hts, List.map_append, List.map_append,
      List.map_take, List.map_drop, Trail.map_entry_fresh]
  | change n f =>
    obtain ⟨hbase, hlocated⟩ := hd.contiguous.located_update hop
    refine ⟨hd.update hop, hbase, _, .change, ?_⟩
    rw [Trail.map_entry_modify, hts, hlocated]
  | inclusion find =>
    obtain ⟨hbase, hexp⟩ := Scan.located_of_ends hd.contiguous hop
    obtain ⟨ts', hspread, hts'⟩ := Trail.Spread.exists_of_expansion hexp hts
    exact ⟨hd.including hop, hbase, ts', .inclusion hspread, hts'⟩
  | blanking p =>
    obtain ⟨hbase, hlocated⟩ := Document.located_blanking hd.contiguous hop
    refine ⟨hd.blanking hop, hbase, _, .blanking, ?_⟩
    rw [hlocated, ← hts, List.map_map, List.map_map]
    refine List.map_congr_left fun t _ => ?_
    simp only [Function.comp_apply]
    split
    · next hp => rw [Trail.entry_change]; simp [Trail.entry, blankIf, hp]
    · next hp => simp [Trail.entry, blankIf, hp]

/-! ## What trails keep -/

theorem forall_mem_fresh {P : Trail → Prop} {path : String} {lines : List String}
    (hfresh : ∀ {q : Location} {x : String}, load.Gives q x → P ⟨q, x, []⟩)
    (hl : load path = .ok lines) : ∀ t ∈ Trail.fresh path 1 lines, P t := by
  have hrest : ∀ (rest pre : List String), lines = pre ++ rest →
      ∀ t ∈ Trail.fresh path (pre.length + 1) rest, P t := by
    intro rest
    induction rest with
    | nil =>
      intro pre _ t ht
      cases ht
    | cons x rest ih =>
      intro pre hlines
      refine List.forall_mem_cons.2 ⟨hfresh ⟨lines, hl, ?_, ?_⟩, ?_⟩
      · show (1 : Int) ≤ pre.length + 1
        omega
      · rw [show ((pre.length : Int) + 1 - 1).toNat = pre.length by omega, hlines]
        simp
      · have := ih (pre ++ [x]) (by rw [hlines, List.append_assoc, List.singleton_append])
        rwa [List.length_append, List.length_singleton, Int.natCast_add] at this
  simpa using hrest lines [] rfl

variable {P : Trail → Prop}

theorem forall_mem_spread {find : String → Option Directive}
    (hfresh : ∀ {q : Location} {x : String}, load.Gives q x → P ⟨q, x, []⟩)
    (hblank : ∀ {t : Trail}, P t → P (t.change Text.blank))
    (h : Trail.Spread load find base ts ts') (hts : ∀ t ∈ ts, P t) : ∀ t ∈ ts', P t := by
  induction h with
  | nil => exact hts
  | plain _ _ ih =>
    obtain ⟨ht, hrest⟩ := List.forall_mem_cons.1 hts
    exact List.forall_mem_cons.2 ⟨ht, ih hrest⟩
  | directive _ hl _ _ ihin ihout =>
    obtain ⟨ht, hrest⟩ := List.forall_mem_cons.1 hts
    exact List.forall_mem_append.2 ⟨ihin (forall_mem_fresh hfresh hl),
      List.forall_mem_cons.2 ⟨hblank ht, ihout hrest⟩⟩

/-- What holds of lines as they are read, and outlasts the changes an operation makes, holds of all
trails after it. -/
theorem Carries.forall_mem
    (hfresh : ∀ {q : Location} {x : String}, load.Gives q x → P ⟨q, x, []⟩)
    (hchange : ∀ {f : String → String} {t : Trail}, op.Applies f → P t → P (t.change f))
    (h : op.Carries load base ts ts') (hts : ∀ t ∈ ts, P t) : ∀ t ∈ ts', P t := by
  cases h with
  | insertion hl =>
    refine List.forall_mem_append.2 ⟨List.forall_mem_append.2 ⟨?_, forall_mem_fresh hfresh hl⟩, ?_⟩
    · exact fun t ht => hts t (List.mem_of_mem_take ht)
    · exact fun t ht => hts t (List.mem_of_mem_drop ht)
  | @change n f =>
    intro t ht
    obtain ⟨i, hi, rfl⟩ := List.mem_iff_getElem.1 ht
    rw [List.getElem_modify]
    split
    · exact hchange rfl (hts _ (List.getElem_mem _))
    · exact hts _ (List.getElem_mem _)
  | inclusion h => exact forall_mem_spread hfresh (fun ht => hchange rfl ht) h hts
  | blanking =>
    refine List.forall_mem_map.2 fun t ht => ?_
    split
    · exact hchange rfl (hts t ht)
    · exact hts t ht

end Operation

/-! ## Runs -/

/-- The document has been read and gone through the operations, the latest of which is the first. -/
inductive Runs (load : Loader) (base : Option String) (source : String) :
    List Operation → Document → Prop
  | read {d : Document} (h : Document.read load base source = .ok d) : Runs load base source [] d
  | next {op : Operation} {ops : List Operation} {d d' : Document}
      (h : Runs load base source ops d) (hop : op.Turns load d d') :
      Runs load base source (op :: ops) d'

/-- The trails of the lines of such a document. -/
inductive Trails (load : Loader) (base : Option String) (source : String) :
    List Operation → List Trail → Prop
  | read {lines : List String} (h : load (sourcePath base source) = .ok lines) :
      Trails load base source [] (Trail.fresh (sourcePath base source) 1 lines)
  | next {op : Operation} {ops : List Operation} {ts ts' : List Trail}
      (h : Trails load base source ops ts) (hop : op.Carries load base ts ts') :
      Trails load base source (op :: ops) ts'

section Runs

variable {load : Loader} {base : Option String} {source : String} {ops : List Operation}
  {d : Document} {ts : List Trail}

theorem Trails.unique {ts' : List Trail} (h : Trails load base source ops ts)
    (h' : Trails load base source ops ts') : ts' = ts := by
  induction h generalizing ts' with
  | read hl =>
    cases h' with
    | read hl' => rw [Except.ok.inj (hl'.symm.trans hl)]
  | next _ hop ih =>
    cases h' with
    | next h' hop' =>
      obtain rfl := ih h'
      exact hop.unique hop'

theorem Trails.forall_mem {P : Trail → Prop} (h : Trails load base source ops ts)
    (hfresh : ∀ {q : Location} {x : String}, load.Gives q x → P ⟨q, x, []⟩)
    (hchange : ∀ {op : Operation} {f : String → String} {t : Trail}, op ∈ ops → op.Applies f →
      P t → P (t.change f)) : ∀ t ∈ ts, P t := by
  induction h with
  | read hl => exact Operation.forall_mem_fresh hfresh hl
  | next _ hop ih =>
    refine hop.forall_mem hfresh (fun hf => hchange List.mem_cons_self hf) (ih ?_)
    exact fun hmem hf => hchange (List.mem_cons_of_mem _ hmem) hf

theorem Trails.gives (h : Trails load base source ops ts) :
    ∀ t ∈ ts, load.Gives t.place t.original :=
  h.forall_mem (fun hq => hq) fun _ _ ht => ht

/-- All changes on a trail are made by the operations. -/
theorem Trails.applies (h : Trails load base source ops ts) :
    ∀ t ∈ ts, ∀ f ∈ t.changes, ∃ op ∈ ops, op.Applies f := by
  refine h.forall_mem (fun _ f hf => (by cases hf)) fun {op f t} hop hf ht g hg => ?_
  rcases List.mem_append.1 hg with hg | hg
  · exact ht g hg
  · obtain rfl := List.mem_singleton.1 hg
    exact ⟨op, hop, hf⟩

theorem Operation.eq_blank_of_isPass {op : Operation} {f : String → String}
    (h : op.isPass = true) (hf : op.Applies f) : f = Text.blank := by
  cases op with
  | insertion | change => cases h
  | inclusion | blanking => exact hf

/-- Macros leave a text as it was read or blank it. -/
theorem Trails.text_of_passes (h : Trails load base source ops ts)
    (hpass : ∀ op ∈ ops, op.isPass = true) :
    ∀ t ∈ ts, t.text = t.original ∨ t.text = Text.blank t.original := by
  intro t ht
  refine Trail.text_of_blanks fun f hf => ?_
  obtain ⟨op, hop, hf⟩ := h.applies t ht f hf
  exact op.eq_blank_of_isPass (hpass op hop) hf

theorem Runs.exists_trails (h : Runs load base source ops d) :
    d.Sound ∧ d.base = base ∧
      ∃ ts, Trails load base source ops ts ∧ ts.map Trail.entry = d.located := by
  induction h with
  | read hr =>
    obtain ⟨hbase, lines, hl, hlocated⟩ := Document.located_read hr
    exact ⟨.read hr, hbase, _, .read hl, by rw [Trail.map_entry_fresh, hlocated]⟩
  | next _ hop ih =>
    obtain ⟨hd, hbase, ts, hts, hentries⟩ := ih
    obtain ⟨hd', hbase', ts', hcarries, hentries'⟩ := Operation.exists_carries hd hop hentries
    exact ⟨hd', hbase'.trans hbase, ts', .next hts (hbase ▸ hcarries), hentries'⟩

/-- Where only macros were at work, a line is one of a source or the blank of one. -/
theorem Runs.exists_gives (h : Runs load base source ops d)
    (hpass : ∀ op ∈ ops, op.isPass = true) {p : String × Location} (hp : p ∈ d.located) :
    ∃ y, load.Gives p.2 y ∧ (p.1 = y ∨ p.1 = Text.blank y) := by
  obtain ⟨-, -, ts, hts, hentries⟩ := h.exists_trails
  rw [← hentries] at hp
  obtain ⟨t, ht, rfl⟩ := List.mem_map.1 hp
  exact ⟨t.original, hts.gives t ht, hts.text_of_passes hpass t ht⟩

/-- What holds of all lines of sources and of all blanks holds of all lines after macros. -/
theorem Runs.forall_mem_lines {P : String → Prop} (h : Runs load base source ops d)
    (hpass : ∀ op ∈ ops, op.isPass = true)
    (hload : ∀ {path : String} {lines : List String}, load path = .ok lines → ∀ x ∈ lines, P x)
    (hblank : ∀ x, P (Text.blank x)) : ∀ x ∈ d.lines, P x := by
  rw [← d.map_fst_located]
  refine List.forall_mem_map.2 fun p hp => ?_
  obtain ⟨y, ⟨lines, hl, -, hy⟩, htext | htext⟩ := h.exists_gives hpass hp
  · rw [htext]
    exact hload hl y (List.mem_of_getElem? hy)
  · rw [htext]
    exact hblank y

theorem exists_runs_of_readAndInvoke {sources : Sources} {invocations : List Invocation}
    (h : Document.readAndInvoke sources base source invocations = .ok d) :
    ∃ ops, (∀ op ∈ ops, op.isPass = true) ∧ Runs sources.load base source ops d := by
  obtain ⟨d₀, hr, hi⟩ := bind_eq_ok.1 h
  refine Document.invokeAll_induction
    (P := fun d => ∃ ops, (∀ op ∈ ops, op.isPass = true) ∧ Runs sources.load base source ops d)
    ?_ ?_ ⟨[], fun _ hop => (by cases hop), .read hr⟩ hi
  · rintro d d' find ⟨ops, hops, hruns⟩ he
    exact ⟨.inclusion find :: ops, List.forall_mem_cons.2 ⟨rfl, hops⟩, .next hruns he⟩
  · rintro d d' p ⟨ops, hops, hruns⟩ hb
    exact ⟨.blanking p :: ops, List.forall_mem_cons.2 ⟨rfl, hops⟩, .next hruns hb⟩

/-- **Provenance.** After any operations on a document that has been read, each line resolves to a line
of a source, and its text is the text there with the changes made to it that were made to this very
line on its way; where only macros were at work, it is the text there or as many spaces. -/
theorem provenance_of_runs (h : Runs load base source ops d) :
    ∃ ts, Trails load base source ops ts ∧ (∀ ts', Trails load base source ops ts' → ts' = ts) ∧
      ts.length = d.size ∧ (∀ t ∈ ts, ∀ f ∈ t.changes, ∃ op ∈ ops, op.Applies f) ∧
      ∀ n : Int, 1 ≤ n ∧ n ≤ d.size → ∃ t lines, ts[(n - 1).toNat]? = some t ∧
        d.resolve n = .ok t.place ∧ load t.place.path = .ok lines ∧
        1 ≤ t.place.line ∧ t.place.line ≤ lines.length ∧
        lines[(t.place.line - 1).toNat]? = some t.original ∧
        d.line n = .ok (t.changes.foldl (fun x f => f x) t.original) ∧
        (t.changes = [] → d.line n = .ok t.original) ∧
        ((∀ op ∈ ops, op.isPass = true) → d.line n = .ok t.original ∨
          d.line n = .ok (String.ofList (List.replicate t.original.length ' '))) := by
  obtain ⟨hd, -, ts, hts, hentries⟩ := h.exists_trails
  have hlength : ts.length = d.size := by
    rw [← d.length_located, ← hentries, List.length_map]
  refine ⟨ts, hts, fun ts' h' => hts.unique h', hlength, hts.applies, fun n hn => ?_⟩
  obtain ⟨x, q, hline, hresolve, hat⟩ := hd.contiguous.lookup hn
  rw [← hentries, List.getElem?_map] at hat
  obtain ⟨t, ht, hentry⟩ := Option.map_eq_some_iff.1 hat
  obtain ⟨rfl, rfl⟩ := Prod.mk.inj hentry
  have hmem := List.mem_of_getElem? ht
  obtain ⟨lines, hl, hone, hget⟩ := hts.gives t hmem
  have hlt := (List.getElem?_eq_some_iff.1 hget).1
  refine ⟨t, lines, ht, hresolve, hl, hone, by omega, hget, hline, fun hnil => ?_, fun hpass => ?_⟩
  · rw [hline, Trail.text, hnil]
    rfl
  · rw [hline, Except.ok.injEq, Except.ok.injEq]
    exact hts.text_of_passes hpass t hmem

/-- A directive of a source that was included, blanked by that and then changed: it is still known as
the second line of its source. -/
theorem provenance_of_edits : ∃ d, Runs Sample.sources.load none "main"
      [.change 4 (· ++ "!"), .inclusion Sample.find] d ∧
    d.resolve 4 = .ok ⟨"part", 2⟩ ∧ d.line 4 = .ok "     !" ∧
    ∃ ts t, Trails Sample.sources.load none "main"
        [.change 4 (· ++ "!"), .inclusion Sample.find] ts ∧ ts[3]? = some t ∧
      t.place = ⟨"part", 2⟩ ∧ t.original = "@leaf" ∧ d.line 4 = .ok t.text := by
  obtain ⟨d, hd, hresolve, hline, hsize⟩ : ∃ d, Runs Sample.sources.load none "main"
      [.change 4 (· ++ "!"), .inclusion Sample.find] d ∧
      d.resolve 4 = .ok ⟨"part", 2⟩ ∧ d.line 4 = .ok "     !" ∧ d.size = 7 :=
    ⟨_, .next (.next (.read rfl) ⟨20, rfl⟩) rfl, rfl, by decide, rfl⟩
  obtain ⟨ts, hts, -, -, -, hat⟩ := provenance_of_runs hd
  obtain ⟨t, lines, ht, hplace, hl, -, -, horiginal, htext, -⟩ := hat 4 (by rw [hsize]; decide)
  have hp : t.place = ⟨"part", 2⟩ := Except.ok.inj (hplace.symm.trans hresolve)
  rw [hp] at hl horiginal
  have hlines : ["c", "@leaf", "d"] = lines := Except.ok.inj hl
  rw [← hlines] at horiginal
  exact ⟨d, hd, hresolve, hline, ts, t, hts, ht, hp, (Option.some.inj horiginal).symm, htext⟩

end Runs

end Patchwork
