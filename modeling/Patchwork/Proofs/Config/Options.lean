import Patchwork.Proofs.Config.Faults
import Patchwork.Proofs.Toml.Keys

/-!
# Which options count

A configuration file may say what it likes about macros. For naming those of the document, though,
no more counts than the patterns of the built-in ones that are listed, as the file gives them or by
default, and whether one of their tables holds the option that macros keep for themselves
(`Accepted.invocations_of_patterns`).

The tables in a file are laid over the defaults name by name. An entry that comes twice would be
found by its first value and laid over with its last; that this cannot happen is due to
`Toml.parse_keyed`.
-/

namespace Patchwork

/-! ## Tables over tables -/

section

variable {α : Type} {l : List (String × α)} {k : String}

theorem lookup_cons_ite (e : String × α) :
    (e :: l).lookup k = if k = e.1 then some e.2 else l.lookup k := by
  rw [List.lookup_cons]
  by_cases h : k = e.1
  · simp [h]
  · simp [h, beq_false_of_ne h]

theorem lookup_of_not_mem (h : k ∉ l.map Prod.fst) : l.lookup k = none := by
  rw [List.lookup_eq_none_iff]
  intro e he
  have hne : k ≠ e.1 := fun heq => h (List.mem_map.2 ⟨e, he, heq.symm⟩)
  simpa using hne

end

namespace OptionTable

variable {t : OptionTable} {name : String}

/-- The table under a name, empty if there is none. -/
def within (t : OptionTable) (name : String) : OptionTable :=
  match t.lookup name with
  | some (.table t') => t'
  | _ => []

theorem within_of_not_mem (h : name ∉ t.map Prod.fst) : t.within name = [] := by
  rw [within, lookup_of_not_mem h]

theorem within_cons (e : String × OptionValue) :
    within (e :: t) name = if name = e.1 then within [e] e.1 else t.within name := by
  by_cases h : name = e.1 <;> simp [within, lookup_cons_ite, h]

theorem Keyed.within (ht : t.Keyed) : (t.within name).Keyed := by
  unfold OptionTable.within
  split
  · next hlookup => exact keyed_table.1 (ht.of_lookup hlookup)
  · exact .nil

theorem lookup_put {k : String} {v : OptionValue} :
    (t.put name v).lookup k = if k = name then some v else t.lookup k := by
  induction t with
  | nil => simp [put, lookup_cons_ite]
  | cons e t ih =>
    by_cases he : e.1 = name
    · by_cases h : k = name <;> simp [put, lookup_cons_ite, he, h]
    · by_cases h : k = e.1 <;> simp [put, lookup_cons_ite, he, h, ih]

theorem lookup_override {base given : OptionTable} (h : (given.map Prod.fst).Nodup) (k : String) :
    (override base given).lookup k = (given.lookup k).or (base.lookup k) := by
  induction given generalizing base with
  | nil => rfl
  | cons e given ih =>
    obtain ⟨hfresh, hnodup⟩ := List.nodup_cons.1 h
    change (override (put e.1 e.2 base) given).lookup k = _
    rw [ih hnodup, lookup_put, lookup_cons_ite]
    by_cases hk : k = e.1
    · subst hk
      simp [lookup_of_not_mem hfresh]
    · simp [hk]

end OptionTable

namespace Macro

variable {options options' : OptionTable}

theorem patternOption_congr (h : options.lookup "pattern" = options'.lookup "pattern")
    (name : String) : patternOption name options = patternOption name options' := by
  rw [patternOption, patternOption, h]

/-- Of its options a macro reads the pattern alone. -/
theorem configure_congr (h : options.lookup "pattern" = options'.lookup "pattern") (m : Macro) :
    m.configure options = m.configure options' := by
  cases m <;> simp only [configure, patternOption_congr h]

end Macro

namespace Config

/-! ## Options of an accepted file -/

variable {c c' : Config}

theorem lookup_setOptions {name k : String} {table : OptionTable}
    {options : List (String × OptionTable)} :
    (setOptions name table options).lookup k = if k = name then some table else options.lookup k := by
  induction options with
  | nil => simp [setOptions, lookup_cons_ite]
  | cons e options ih =>
    by_cases he : e.1 = name
    · by_cases h : k = name <;> simp [setOptions, lookup_cons_ite, he, h]
    · by_cases h : k = e.1 <;> simp [setOptions, lookup_cons_ite, he, h, ih]

theorem optionsOf_of_readMacro {entry : String × OptionValue} (h : readMacro c entry = .ok c')
    (name : String) : c'.optionsOf name =
      if name = entry.1 then (c.optionsOf name).override (OptionTable.within [entry] entry.1)
      else c.optionsOf name := by
  unfold readMacro at h
  split at h
  · next given hgiven =>
    cases h
    have hwithin : OptionTable.within [entry] entry.1 = given := by
      simp [OptionTable.within, lookup_cons_ite, hgiven]
    rw [optionsOf, lookup_setOptions, hwithin]
    by_cases hname : name = entry.1 <;> simp [hname, optionsOf]
  · cases h

/-- By induction on the entries, each of which overrides the options of its own macro. -/
theorem lookup_of_readMacros {entries : OptionTable} (hentries : entries.Keyed)
    (h : entries.foldlM readMacro c = .ok c') (name option : String) :
    (c'.optionsOf name).lookup option =
      ((entries.within name).lookup option).or ((c.optionsOf name).lookup option) := by
  induction entries generalizing c with
  | nil =>
    cases h
    rfl
  | cons entry entries ih =>
    rw [List.foldlM_cons] at h
    obtain ⟨c₁, hentry, h⟩ := bind_eq_ok.1 h
    obtain ⟨hfresh, -, htail⟩ := OptionTable.keyed_cons.1 hentries
    rw [ih htail h, optionsOf_of_readMacro hentry, OptionTable.within_cons (t := entries)]
    by_cases hname : name = entry.1
    · subst hname
      have hgiven : (OptionTable.within (entry :: entries) entry.1).Keyed := hentries.within
      rw [OptionTable.within_cons, if_pos rfl] at hgiven
      rw [if_pos rfl, if_pos rfl, OptionTable.within_of_not_mem hfresh,
        OptionTable.lookup_override hgiven.nodup]
      rfl
    · rw [if_neg hname, if_neg hname]

theorem options_of_readDocument {fs : FileSystem} {directory : Path} {document : OptionValue}
    (h : readDocument fs directory c document = .ok c') : c'.options = c.options := by
  unfold readDocument at h
  split at h
  · split at h
    · split at h
      · obtain ⟨path, -, h⟩ := bind_eq_ok.1 h
        cases h
        rfl
      · cases h
    · cases h
  · cases h

/-- The options of a macro when nothing else is said. -/
def defaultsOf (name : String) : OptionTable := (defaultOptions.lookup name).getD []

theorem lookup_of_ofTable {fs : FileSystem} {directory : Path} {table : OptionTable}
    (htable : table.Keyed) (h : ofTable fs directory table = .ok c) (name option : String) :
    (c.optionsOf name).lookup option =
      (((table.within "macros").within name).lookup option).or ((defaultsOf name).lookup option) := by
  rw [ofTable_eq] at h
  obtain ⟨c₀, hdocument, h⟩ := bind_eq_ok.1 h
  have hdefaults : c₀.options = defaultOptions := by
    cases hlookup : table.lookup "document" with
    | none =>
      rw [hlookup] at hdocument
      cases hdocument
      rfl
    | some document =>
      rw [hlookup] at hdocument
      exact options_of_readDocument hdocument
  have hbase : c₀.optionsOf name = defaultsOf name := by
    rw [optionsOf, hdefaults, defaultsOf]
  have hentries : (table.within "macros").Keyed := htable.within
  rw [← hbase]
  cases hlookup : table.lookup "macros" with
  | none =>
    rw [hlookup] at h
    cases h
    simp [OptionTable.within, hlookup]
  | some macros =>
    rw [hlookup] at h
    simp only [Option.elim_some, readMacros] at h
    split at h
    · next entries =>
      have hwithin : table.within "macros" = entries := by rw [OptionTable.within, hlookup]
      rw [hwithin] at hentries ⊢
      exact lookup_of_readMacros hentries h name option
    · cases h

/-! ## Accepted files -/

/-- A configuration file that is accepted, with the table in it and what it is loaded as. -/
structure Accepted where
  fs : FileSystem
  path : String
  table : OptionTable
  config : Config
  hread : readTable fs path = .ok table
  hload : load fs path = .ok config

namespace Accepted

variable (a : Accepted) {name : String}

/-- What the file itself gives for an option of a macro. -/
def given (name option : String) : Option OptionValue :=
  ((a.table.within "macros").within name).lookup option

/-- What holds for an option of a macro: what the file gives, or else the default. -/
def effective (name option : String) : Option OptionValue :=
  (a.given name option).or ((defaultsOf name).lookup option)

theorem keyed_table : a.table.Keyed := by
  obtain ⟨content, -, h⟩ := bind_eq_ok.1 a.hread
  split at h
  · cases h
  · split at h
    · next hparse =>
      cases h
      exact Toml.parse_keyed hparse
    · cases h
    · cases h

theorem lookup_optionsOf (name option : String) :
    (a.config.optionsOf name).lookup option = a.effective name option := by
  obtain ⟨table, hread, h⟩ := bind_eq_ok.1 a.hload
  obtain rfl := Except.ok.inj (a.hread.symm.trans hread)
  obtain ⟨file, -, h⟩ := bind_eq_ok.1 h
  exact lookup_of_ofTable a.keyed_table h name option

/-! ## Naming one macro -/

/-- What comes of naming a macro: nothing is asked of the file but whether it gives the reserved
option, and which pattern holds. -/
inductive Makes (name : String) : Except Error Invocation → Prop
  | ready {m : Macro} {v : OptionValue} {pass : Pass} (hm : m ∈ Macro.builtin)
      (hname : m.name = name) (hfree : (a.given name Macro.reservedName).isSome = false)
      (hv : a.effective name "pattern" = some v) (hpass : m.configure [("pattern", v)] = .ok pass) :
      Makes name (.ok (.checked name pass))
  | refused {m : Macro} {v : OptionValue} {e : Error} (hm : m ∈ Macro.builtin)
      (hname : m.name = name) (hfree : (a.given name Macro.reservedName).isSome = false)
      (hv : a.effective name "pattern" = some v)
      (he : m.configure [("pattern", v)] = .error e) (hcomplaint : Complaint e) :
      Makes name (.error e)
  | unknown (h : ∀ m ∈ Macro.builtin, m.name ≠ name) :
      Makes name (failFor (Macro.unknown Macro.builtin name))
  | reserved {m : Macro} (hm : m ∈ Macro.builtin) (hname : m.name = name)
      (h : (a.given name Macro.reservedName).isSome = true) :
      Makes name (.error (.fault (.reservedOption Macro.reservedName)))

variable {a}

theorem exists_effective_pattern {m : Macro} (hm : m ∈ Macro.builtin) :
    ∃ v, a.effective m.name "pattern" = some v := by
  have hdefault : ((defaultsOf m.name).lookup "pattern").isSome = true := by
    cases m with
    | inclusion => rfl
    | lineComment => rfl
    | bare => exact absurd hm (by decide)
  rw [effective]
  cases a.given m.name "pattern" with
  | none => exact Option.isSome_iff_exists.1 hdefault
  | some v => exact ⟨v, rfl⟩

/-- No macro has the reserved option by default. -/
theorem effective_reservedName (m : Macro) :
    a.effective m.name Macro.reservedName = a.given m.name Macro.reservedName := by
  have hdefault : (defaultsOf m.name).lookup Macro.reservedName = none := by cases m <;> rfl
  rw [effective, hdefault, Option.or_none]

theorem invoke_optionsOf {m : Macro} {v : OptionValue}
    (hv : a.effective m.name "pattern" = some v) : m.invoke (a.config.optionsOf m.name) =
      if (a.given m.name Macro.reservedName).isSome then
        .error (.fault (.reservedOption Macro.reservedName))
      else m.configure [("pattern", v)] := by
  have hpattern : (a.config.optionsOf m.name).lookup "pattern" =
      ([("pattern", v)] : OptionTable).lookup "pattern" := by
    rw [lookup_optionsOf, hv]
    rfl
  rw [Macro.invoke, lookup_optionsOf, effective_reservedName, Macro.configure_congr hpattern]

theorem makes_invocation (name : String) : a.Makes name (a.config.invocation name) := by
  unfold invocation
  cases hfind : Macro.builtin.find? fun m => m.name = name with
  | none =>
    refine .unknown fun m hm hname => ?_
    simpa [hname] using List.find?_eq_none.1 hfind m hm
  | some m =>
    obtain ⟨hm, rfl⟩ := Macro.mem_of_find?_name hfind
    obtain ⟨v, hv⟩ := exists_effective_pattern (a := a) hm
    simp only [invoke_optionsOf hv]
    cases hreserved : (a.given m.name Macro.reservedName).isSome with
    | true => exact .reserved hm rfl hreserved
    | false =>
      have hyields := configure_yields hm [("pattern", v)]
      cases hconfigure : m.configure [("pattern", v)] with
      | ok pass => exact .ready hm rfl hreserved hv hconfigure
      | error e =>
        rw [hconfigure] at hyields
        exact .refused hm rfl hreserved hv hconfigure hyields

theorem Makes.complaint_or_reserved {name : String} {e : Error} (h : a.Makes name (.error e)) :
    Complaint e ∨ e = .fault (.reservedOption Macro.reservedName) ∧
      ∃ m ∈ Macro.builtin, m.name = name ∧ (a.given name Macro.reservedName).isSome = true := by
  cases h with
  | refused _ _ _ _ _ hcomplaint => exact Or.inl hcomplaint
  | unknown _ => exact Or.inl ⟨_, rfl, rfl⟩
  | reserved hm hname h => exact Or.inr ⟨rfl, _, hm, hname, h⟩

/-! ## Naming all macros -/

/-- Two files that list the same macros and give those of them that are built in the same patterns,
and the reserved option either both or neither. -/
structure SamePatterns (a b : Accepted) : Prop where
  macros : a.config.macros = b.config.macros
  patterns : ∀ m ∈ Macro.builtin, m.name ∈ a.config.macros →
    a.effective m.name "pattern" = b.effective m.name "pattern"
  reserved : ∀ m ∈ Macro.builtin, m.name ∈ a.config.macros →
    (a.given m.name Macro.reservedName).isSome = (b.given m.name Macro.reservedName).isSome

theorem SamePatterns.invocation_eq {a b : Accepted} (h : a.SamePatterns b) {name : String}
    (hname : name ∈ a.config.macros) : a.config.invocation name = b.config.invocation name := by
  unfold invocation
  cases hfind : Macro.builtin.find? fun m => m.name = name with
  | none => rfl
  | some m =>
    obtain ⟨hm, rfl⟩ := Macro.mem_of_find?_name hfind
    obtain ⟨v, hv⟩ := exists_effective_pattern (a := a) hm
    have hv' : b.effective m.name "pattern" = some v := (h.patterns m hm hname).symm.trans hv
    simp only [invoke_optionsOf hv, invoke_optionsOf hv', h.reserved m hm hname]

/-- **Only the patterns of the listed macros count.** Naming the macros of an accepted file gives an
invocation for each in the order of the list, or fails as it does for the first for which it does:
with a complaint about the configuration, or because the table of a built-in macro has the reserved
option. And files with the same list and the same patterns for it come to the same, whatever else
they say, if they are alike in the reserved option. -/
theorem invocations_of_patterns (a : Accepted) :
    ((∃ is, a.config.invocations = .ok is ∧
        List.Forall₂ (fun name i => a.Makes name (.ok i)) a.config.macros is) ∨
      ∃ before name after e, a.config.macros = before ++ name :: after ∧
        (∀ n ∈ before, ∃ i, a.Makes n (.ok i)) ∧ a.Makes name (.error e) ∧
        a.config.invocations = .error e ∧
        (Complaint e ∨ e = .fault (.reservedOption Macro.reservedName) ∧
          ∃ m ∈ Macro.builtin, m.name = name ∧
            (a.given name Macro.reservedName).isSome = true)) ∧
    ∀ b : Accepted, a.SamePatterns b → a.config.invocations = b.config.invocations := by
  have hmakes : ∀ name r, a.config.invocation name = r → a.Makes name r := by
    intro name r hr
    exact hr ▸ makes_invocation name
  refine ⟨?_, fun b h => ?_⟩
  · cases hrun : a.config.invocations with
    | ok is =>
      refine Or.inl ⟨is, rfl, ?_⟩
      exact (forall₂_of_mapM hrun).imp fun name i hi => hmakes name _ hi
    | error e =>
      obtain ⟨before, name, after, hmacros, hbefore, he⟩ := exists_of_mapM_eq_error hrun
      have hmade := hmakes name _ he
      refine Or.inr ⟨before, name, after, e, hmacros, fun n hn => ?_, hmade, rfl,
        hmade.complaint_or_reserved⟩
      obtain ⟨i, hi⟩ := hbefore n hn
      exact ⟨i, hmakes n _ hi⟩
  · unfold invocations
    rw [← h.macros]
    exact mapM_congr fun name hname => h.invocation_eq hname

/-- Nothing but a configuration file of the given text. -/
def holding (text : String) : FileSystem where
  root := .directory [("logical_file.toml", .file text.toUTF8)]
  workingDirectory := []

/-- A text as an accepted file, by the table and the configuration it stands for. -/
def ofText (text : String) (table : OptionTable) (c : Config)
    (hparse : Toml.parse text = .ok table)
    (hconfig : ofTable (holding text) ⟨.root, []⟩ table = .ok c) : Accepted where
  fs := holding text
  path := "/logical_file.toml"
  table := table
  config := c
  hread := readTable_of_parse rfl hparse
  hload := by
    have hfile : (holding text).resolve "/logical_file.toml" =
        .ok ⟨.root, ["logical_file.toml"]⟩ := rfl
    refine bind_eq_ok.2 ⟨table, readTable_of_parse rfl hparse, ?_⟩
    exact bind_eq_ok.2 ⟨_, faultOfAccess_eq_ok.2 hfile, hconfig⟩

/-- A file that gives the directives an option that is not one of theirs. -/
def furtherOption : Accepted :=
  ofText "[macros.include]\nflags = 1\n"
    [("macros", .table [("include", .table [("flags", .integer 1)])])]
    ⟨"/", defaultMacros, setOptions "include"
      [("pattern", .text defaultInclude), ("flags", .integer 1)] defaultOptions⟩
    (by simp only [Toml.parse, String.reduceToList]; rfl) rfl

/-- A file with a table for a macro that is not listed. -/
def furtherMacro : Accepted :=
  ofText "[macros.bare]\ncls = true\npattern = 1\n"
    [("macros", .table [("bare", .table [("cls", .boolean true), ("pattern", .integer 1)])])]
    ⟨"/", defaultMacros, defaultOptions ++
      [("bare", [("cls", .boolean true), ("pattern", .integer 1)])]⟩
    (by simp only [Toml.parse, String.reduceToList]; rfl) rfl

/-- The patterns of the built-in macros are those by default. -/
structure DefaultPatterns (a : Accepted) : Prop where
  inclusion : a.effective "include" "pattern" = some (.text defaultInclude)
  lineComment : a.effective "line_comment" "pattern" = some (.text defaultComment)

theorem DefaultPatterns.effective_eq {a b : Accepted} (ha : a.DefaultPatterns)
    (hb : b.DefaultPatterns) {m : Macro} (hm : m ∈ Macro.builtin) :
    a.effective m.name "pattern" = b.effective m.name "pattern" := by
  cases m with
  | inclusion => exact ha.inclusion.trans hb.inclusion.symm
  | lineComment => exact ha.lineComment.trans hb.lineComment.symm
  | bare => exact absurd hm (by decide)

theorem defaultPatterns_furtherOption : furtherOption.DefaultPatterns := ⟨rfl, rfl⟩

/-- Neither what directives are given more nor the other table makes a difference. -/
theorem invocations_of_patterns_further : furtherOption.SamePatterns furtherMacro ∧
    furtherOption.config.invocations = furtherMacro.config.invocations := by
  have hreserved : ∀ m ∈ Macro.builtin, (furtherOption.given m.name Macro.reservedName).isSome =
      (furtherMacro.given m.name Macro.reservedName).isSome := by decide +kernel
  have h : furtherOption.SamePatterns furtherMacro := by
    refine ⟨rfl, fun m hm _ => ?_, fun m hm _ => hreserved m hm⟩
    exact defaultPatterns_furtherOption.effective_eq ⟨rfl, rfl⟩ hm
  exact ⟨h, (invocations_of_patterns furtherOption).2 furtherMacro h⟩

/-- A file that gives the directives the option that macros keep for themselves. -/
def reservedOption : Accepted :=
  ofText "[macros.include]\ncls = 1\n"
    [("macros", .table [("include", .table [("cls", .integer 1)])])]
    ⟨"/", defaultMacros, setOptions "include"
      [("pattern", .text defaultInclude), ("cls", .integer 1)] defaultOptions⟩
    (by simp only [Toml.parse, String.reduceToList]; rfl) rfl

/-- Of two files with the same macros and patterns, differing in the name of one more option, one
gives the invocations and the other a fault. -/
theorem invocations_reservedOption :
    furtherOption.config.macros = reservedOption.config.macros ∧
    (∀ m ∈ Macro.builtin, furtherOption.effective m.name "pattern" =
      reservedOption.effective m.name "pattern") ∧
    (∃ is, furtherOption.config.invocations = .ok is ∧
      is.map Invocation.name = ["include", "line_comment"]) ∧
    reservedOption.config.invocations = .error (.fault (.reservedOption "cls")) := by
  have hnames : furtherOption.config.invocations.toOption.map (·.map Invocation.name) =
      some ["include", "line_comment"] := by decide +kernel
  obtain ⟨is, his, hnames⟩ := Option.map_eq_some_iff.1 hnames
  refine ⟨rfl, fun m hm => ?_, ⟨is, eq_ok_of_toOption his, hnames⟩, rfl⟩
  exact defaultPatterns_furtherOption.effective_eq ⟨rfl, rfl⟩ hm

end Accepted

end Config

end Patchwork
