import Patchwork.Config
import Patchwork.Proofs.Channel
import Patchwork.Proofs.Source.Null
import Patchwork.Proofs.Text.Lines

/-!
# Faults of configurations

All that is wrong with the settings in a configuration file is reported. What is not is listed here:
the file cannot be read or decoded or holds a number that is too long, its base path holds a null
character (`Config.LoadFault`), the path of a file to look for is too long (`find_yields`), or a
macro is given the option that macros keep for themselves (`invocations_yields`).
-/

namespace Patchwork

open FileSystem (hasNull)

theorem Macro.mem_of_find?_name {table : List Macro} {name : String} {m : Macro}
    (h : (table.find? fun m => m.name = name) = some m) : m ∈ table ∧ m.name = name := by
  refine ⟨List.mem_of_find?_eq_some h, ?_⟩
  simpa using List.find?_some h

namespace Config

/-- The faults that loading the configuration file at `path` can end with. -/
inductive LoadFault (fs : FileSystem) (path : String) : Fault → Prop
  | unreadable {failure : AccessFailure} (h : fs.read path = .error failure) :
      LoadFault fs path (.access failure)
  | malformed {content : ByteArray} {sequence : Text.Malformed} (hread : fs.read path = .ok content)
      (h : Text.decode content = .error sequence) : LoadFault fs path (.malformed sequence)
  | numberTooLong {content : ByteArray} {text : String} {digits : Nat}
      (hread : fs.read path = .ok content) (hdecode : Text.decode content = .ok text)
      (h : Toml.parse text = .error (.numberTooLong digits)) :
      LoadFault fs path (.numberTooLong digits)
  | nullInBase {table entries : OptionTable} {base : String} (hread : readTable fs path = .ok table)
      (hdocument : table.lookup "document" = some (.table entries))
      (hbase : entries.lookup "base_path" = some (.text base)) (h : hasNull base = true) :
      LoadFault fs path (.access .nullInPath)
  | nullAbove (h : ¬fs.NullFree) : LoadFault fs path (.access .nullInPath)

/-- The base path holds no null character, if none comes from the working directory. -/
def BaseNullFree (fs : FileSystem) (c : Config) : Prop := fs.NullFree → hasNull c.basePath = false

variable {fs : FileSystem} {path : String} {P : Span → Prop}

/-! ## Loading -/

theorem hasNull_of_readTable {table : OptionTable} (h : readTable fs path = .ok table) :
    hasNull path = false := by
  obtain ⟨content, hread, -⟩ := bind_eq_ok.1 h
  exact FileSystem.hasNull_of_read (faultOfAccess_eq_ok.1 hread)

theorem channel_of_readTable {e : Error} (h : readTable fs path = .error e) :
    Channel (LoadFault fs path) P e := by
  rcases bind_eq_error.1 h with h | ⟨content, hread, h⟩
  · obtain ⟨failure, hread, rfl⟩ := faultOfAccess_eq_error.1 h
    exact .fault (.unreadable hread)
  · have hread := faultOfAccess_eq_ok.1 hread
    split at h
    · next sequence hdecode =>
      cases h
      exact .fault (.malformed hread hdecode)
    · next text hdecode =>
      split at h
      · cases h
      · cases h
        exact .plain
      · next digits hparse =>
        cases h
        exact .fault (.numberTooLong hread hdecode hparse)

theorem readTable_of_malformed {content : ByteArray} {sequence : Text.Malformed}
    (hread : fs.read path = .ok content) (hdecode : Text.decode content = .error sequence) :
    readTable fs path = .error (.fault (.malformed sequence)) := by
  refine bind_eq_error.2 (Or.inr ⟨content, faultOfAccess_eq_ok.2 hread, ?_⟩)
  simp only [hdecode]

theorem readTable_of_parse {text : String} {table : OptionTable}
    (hread : fs.read path = .ok text.toUTF8) (hparse : Toml.parse text = .ok table) :
    readTable fs path = .ok table := by
  refine bind_eq_ok.2 ⟨text.toUTF8, faultOfAccess_eq_ok.2 hread, ?_⟩
  simp only [Text.decode_toUTF8, hparse]
  rfl

theorem readDocument_yields {directory : Path} {c : Config} {document : OptionValue}
    {E : Error → Prop} (hreported : ∀ cause, E (.reported cause none))
    (hbase : ∀ entries base, document = .table entries →
      entries.lookup "base_path" = some (.text base) → hasNull base = true →
      E (.fault (.access .nullInPath)))
    (habove : ¬fs.NullFree → E (.fault (.access .nullInPath)))
    (hdirectory : fs.NullFree → directory.NullFree) :
    Yields E (BaseNullFree fs) (readDocument fs directory c document) := by
  unfold readDocument
  split
  · next entries =>
    split
    · next base hlookup =>
      split
      · next macros hmacros =>
        cases hresolve : fs.resolve (directory ++ Path.ofString base).render with
        | ok p =>
          exact fun hfs => Path.hasNull_render.2 (FileSystem.nullFree_of_resolve hfs hresolve)
        | error failure =>
          obtain ⟨rfl, hnull⟩ := FileSystem.resolve_eq_error hresolve
          by_cases hfs : fs.NullFree
          · cases hgiven : hasNull base with
            | false =>
              have hclean := (hdirectory hfs).append (Path.nullFree_ofString.2 hgiven)
              rw [Path.hasNull_render.2 hclean] at hnull
              cases hnull
            | true =>
              refine hbase entries base rfl ?_ hgiven
              cases hentry : entries.lookup "base_path" with
              | none =>
                rw [hentry] at hlookup
                cases hlookup
                cases hgiven
              | some v => rw [hentry] at hlookup; exact congrArg some hlookup
          · exact habove hfs
      · exact hreported _
    · exact hreported _
  · exact hreported _

theorem readMacro_yields {E : Error → Prop} (hreported : ∀ cause, E (.reported cause none))
    (c : Config) (entry : String × OptionValue) :
    Yields E (·.basePath = c.basePath) (readMacro c entry) := by
  unfold readMacro
  split
  · exact rfl
  · exact hreported _

theorem readMacros_yields {E : Error → Prop} (hreported : ∀ cause, E (.reported cause none))
    (c : Config) (macros : OptionValue) :
    Yields E (·.basePath = c.basePath) (c.readMacros macros) := by
  unfold readMacros
  split
  · refine Yields.foldlM (fun c' entry _ hc' => ?_) rfl
    exact (readMacro_yields hreported c' entry).mono (fun _ he => he) fun _ h => h.trans hc'
  · exact hreported _

theorem ofTable_eq (fs : FileSystem) (directory : Path) (table : OptionTable) :
    ofTable fs directory table =
      ((table.lookup "document").elim (.ok (.ofBase directory.render))
        (readDocument fs directory (.ofBase directory.render)) >>= fun c =>
          (table.lookup "macros").elim (.ok c) c.readMacros) := by
  unfold ofTable
  cases table.lookup "document" <;> cases table.lookup "macros" <;> rfl

/-- Loading a configuration file ends with a configuration, a reported error or a listed fault. -/
theorem load_yields (fs : FileSystem) (path : String) (P : Span → Prop) :
    Yields (Channel (LoadFault fs path) P) (BaseNullFree fs) (load fs path) := by
  have htable : Yields (Channel (LoadFault fs path) P) (readTable fs path = .ok ·)
      (readTable fs path) := .of_forall fun e he => channel_of_readTable he
  refine htable.bind fun table hread => ?_
  obtain ⟨file, hfile⟩ := FileSystem.exists_resolve fs (hasNull_of_readTable hread)
  have hdirectory : fs.NullFree → file.parent.NullFree := fun hfs =>
    (FileSystem.nullFree_of_resolve hfs hfile).parent
  have hdocument : Yields (Channel (LoadFault fs path) P) (BaseNullFree fs)
      ((table.lookup "document").elim (.ok (.ofBase file.parent.render))
        (readDocument fs file.parent (.ofBase file.parent.render))) := by
    cases hlookup : table.lookup "document" with
    | none => exact fun hfs => Path.hasNull_render.2 (hdirectory hfs)
    | some document =>
      refine readDocument_yields (fun _ => .plain) ?_ (fun h => .fault (.nullAbove h)) hdirectory
      rintro entries base rfl hbase hnull
      exact .fault (.nullInBase hread hlookup hbase hnull)
  rw [hfile]
  show Yields _ _ (ofTable fs file.parent table)
  rw [ofTable_eq]
  refine hdocument.bind fun c hc => ?_
  cases table.lookup "macros" with
  | none => exact hc
  | some macros =>
    exact (readMacros_yields (fun _ => .plain) c macros).mono (fun _ he => he)
      fun c' hc' hfs => hc' ▸ hc hfs

/-! ## Finding -/

theorem exists_of_probe {p : Path} {failure : AccessFailure} (h : fs.probe p = .error failure) :
    ∃ opened, failure = .blocked .nameTooLong opened := by
  simp only [FileSystem.probe] at h
  split at h
  · cases h
  · split at h
    · cases h
    · cases h
      exact ⟨_, rfl⟩
    · cases h

theorem probe_yields {E : Error → Prop}
    (hlong : ∀ opened, E (.fault (.access (.blocked .nameTooLong opened)))) (p : Path) :
    Yields E (fun _ => True) (faultOfAccess (fs.probe p)) := by
  cases hprobe : fs.probe p with
  | ok found => trivial
  | error failure =>
    obtain ⟨opened, rfl⟩ := exists_of_probe hprobe
    exact hlong opened

theorem searchUp_yields {E : Error → Prop} (hnone : E (.fault .configNotFound))
    (hlong : ∀ opened, E (.fault (.access (.blocked .nameTooLong opened)))) (names : List String) :
    Yields E (fun _ => True) (searchUp fs names) := by
  have hlook : ∀ names otherwise, Yields E (fun _ => True) otherwise →
      Yields E (fun _ => True) (searchUp.look fs names otherwise) := by
    intro names otherwise hotherwise
    refine (probe_yields hlong _).bind fun found _ => ?_
    split
    · trivial
    · exact hotherwise
  induction names with
  | nil =>
    rw [searchUp]
    have herror : Yields E (fun _ => True) (.error (.fault .configNotFound) : Except Error Path) :=
      hnone
    exact hlook [] _ herror
  | cons name above ih =>
    rw [searchUp]
    exact hlook _ _ ih

/-- Looking for a configuration file fails if there is none, or where a path gets too long. -/
theorem find_yields {E : Error → Prop} {start : String} (hstart : hasNull start = false)
    (hnone : E (.fault .configNotFound))
    (hlong : ∀ opened, E (.fault (.access (.blocked .nameTooLong opened)))) :
    Yields E (fun _ => True) (find fs start) := by
  obtain ⟨path, hpath⟩ := FileSystem.exists_resolve fs hstart
  unfold find
  rw [hpath]
  exact (probe_yields hlong path).bind fun found _ => searchUp_yields hnone hlong _

/-! ## Invocations -/

/-- The invocation of a built-in macro whose options have been checked. -/
def Ready (i : Invocation) : Prop :=
  ∃ m ∈ Macro.builtin, ∃ pass, i = .checked m.name pass ∧ ∀ p, pass ≠ .bare p

/-- A reported error about the configuration, without a span. -/
def Complaint (e : Error) : Prop := ∃ cause, e = .reported cause none ∧ cause.kind = .configuration

theorem patternOption_yields (name : String) (options : OptionTable) :
    Yields Complaint (fun _ => True) (Macro.patternOption name options) := by
  unfold Macro.patternOption
  split
  · exact ⟨_, rfl, rfl⟩
  · trivial
  · split
    · trivial
    · exact ⟨_, rfl, rfl⟩
  · exact ⟨_, rfl, rfl⟩

theorem directivePattern_yields (p : Matcher) :
    Yields Complaint (fun _ => True) (Macro.directivePattern p) := by
  unfold Macro.directivePattern
  split
  · trivial
  · exact ⟨_, rfl, rfl⟩

theorem configure_yields {m : Macro} (hm : m ∈ Macro.builtin) (options : OptionTable) :
    Yields Complaint (fun pass => ∀ p, pass ≠ .bare p) (m.configure options) := by
  cases m with
  | inclusion =>
    refine (patternOption_yields _ options).bind fun p _ => ?_
    refine (directivePattern_yields p).bind fun p' _ => ?_
    exact fun p hp => (by cases hp)
  | lineComment =>
    refine (patternOption_yields _ options).bind fun p _ => ?_
    exact fun p hp => (by cases hp)
  | bare => exact absurd hm (by decide)

/-- Naming macros fails with a reported error, or because one that is listed is given the option
that macros keep for themselves. -/
theorem invocations_yields {E : Error → Prop} (hreported : ∀ cause, E (.reported cause none))
    {c : Config} (hreserved : ∀ name ∈ c.macros,
      ((c.optionsOf name).lookup Macro.reservedName).isSome →
      E (.fault (.reservedOption Macro.reservedName))) :
    Yields E (fun is => ∀ i ∈ is, Ready i) c.invocations := by
  refine Yields.mapM fun name hname => ?_
  unfold invocation
  split
  · exact hreported _
  · next m hfind =>
    obtain ⟨hm, hmname⟩ := Macro.mem_of_find?_name hfind
    have hinvoke : Yields E (fun pass => ∀ p, pass ≠ .bare p) (m.invoke (c.optionsOf name)) := by
      unfold Macro.invoke
      split
      · next hsome => exact hreserved name hname hsome
      · refine (configure_yields hm _).mono ?_ fun _ h => h
        rintro e ⟨cause, rfl, -⟩
        exact hreported cause
    exact hinvoke.bind fun pass hpass => ⟨m, hm, pass, hmname ▸ rfl, hpass⟩

end Config

end Patchwork
