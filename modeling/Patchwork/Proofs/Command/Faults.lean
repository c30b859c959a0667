import Patchwork.Proofs.Command.Reports
import Patchwork.Proofs.Config.Faults
import Patchwork.Proofs.Diagnostic.Drawing
import Patchwork.Proofs.Include.Blame

/-!
# What commands end with

A command that is given a file answers, or fails with a message on the error stream (`Settled`), or
lets a fault through. The faults that get through are listed by where they come from (`Escapes`); most
of them come from the configuration file, of which it is taken for granted that it can be opened and
is UTF-8.
-/

namespace Patchwork

open FileSystem (hasNull)

namespace Command

/-- The configuration file that counts for `file`: the one given, or else the nearest one. -/
inductive ConfigAt (s : Setting) (file : String) : String → Prop
  | given {path : String} (h : s.config = some path) : ConfigAt s file path
  | found {path : Path} (hnone : s.config = none) (h : Config.find s.fs file = .ok path) :
      ConfigAt s file path.render

/-- The faults that get through when the document of `file` is asked for. -/
inductive Escapes (s : Setting) (file : String) : Fault → Prop
  /-- A path gets too long on the way to a configuration file. -/
  | search {opened : String} (hnone : s.config = none)
      (h : Config.find s.fs file = .error (.fault (.access (.blocked .nameTooLong opened)))) :
      Escapes s file (.access (.blocked .nameTooLong opened))
  | config {path : String} {f : Fault} (hconfig : ConfigAt s file path)
      (h : Config.LoadFault s.fs path f) : Escapes s file f
  /-- A macro that is listed has the option that macros keep for themselves. -/
  | reservedOption {c : Config} {name : String} (hc : configFor s file = .ok c)
      (hname : name ∈ c.macros) (h : ((c.optionsOf name).lookup Macro.reservedName).isSome) :
      Escapes s file (.reservedOption Macro.reservedName)
  /-- A line of a source names another one with a null character in its path. -/
  | nullInTarget {c : Config} {invocations : List Invocation} {name path x : String}
      {p : DirectivePattern} {lines : List String} {dir : Directive} (hc : configFor s file = .ok c)
      (hi : c.invocations = .ok invocations) (hp : .checked name (.inclusion p) ∈ invocations)
      (hload : s.fs.load path = .ok lines) (hx : x ∈ lines) (hdir : p.find x = some dir)
      (h : hasNull dir.target = true) : Escapes s file (.access .nullInPath)
  | nullAbove (h : ¬s.fs.NullFree) : Escapes s file (.access .nullInPath)
  /-- A line has more characters than can be counted. -/
  | longLine {path x : String} {lines : List String} (hload : s.fs.load path = .ok lines)
      (hx : x ∈ lines) (h : LineRange.sizeLimit < x.length) : Escapes s file .uncountable

/-- The report of a command that no fault has got through: an answer, the diagnostic of a reported
error, or the message that there is no such line. -/
inductive Settled (s : Setting) (file : String) : Report → Prop
  | answered {out : String} : Settled s file ⟨0, out, "", none, none⟩
  | diagnosed {cause : Cause} {span : Option Span} {text : String}
      (hfails : document s file = .error (.reported cause span))
      (hdraws : Renderer.drawAlone ⟨s.fs.load, s.color⟩ (cause.diagnostic span) = .ok text) :
      Settled s file ⟨1, "", text ++ "\n", none, unavailableSource? cause⟩
  | outside {d : Document} {n : Int} {message : String} (hd : document s file = .ok d)
      (hn : ¬(1 ≤ n ∧ n ≤ d.lines.length)) :
      Settled s file ⟨1, "", "error: " ++ message ++ "\n", none, none⟩

variable {s : Setting} {file : String}

/-! ## The document -/

theorem hasNull_of_checkFile (h : checkFile s.fs file = .good) : hasNull file = false := by
  unfold checkFile at h
  split at h
  · cases h
  · next hnull => simpa using hnull

theorem ofSource_yields {E : Error → Prop} (hfile : hasNull file = false) :
    Yields E (Config.BaseNullFree s.fs) (Config.ofSource s.fs file) := by
  obtain ⟨path, hpath⟩ := FileSystem.exists_resolve s.fs hfile
  unfold Config.ofSource
  rw [hpath]
  exact fun hfs => Path.hasNull_render.2 (FileSystem.nullFree_of_resolve hfs hpath).parent

theorem configFor_of_given {path : String} (h : s.config = some path) :
    configFor s file = Config.load s.fs path := by
  unfold configFor
  rw [h]

section Found

variable (hnone : s.config = none)

include hnone

theorem configFor_of_ok {c : Config}
    (h : (Config.find s.fs file >>= fun path => Config.load s.fs path.render) = .ok c) :
    configFor s file = .ok c := by
  unfold configFor
  rw [hnone]
  simp only [h]

theorem configFor_of_error {e : Error}
    (h : (Config.find s.fs file >>= fun path => Config.load s.fs path.render) = .error e) :
    configFor s file = if isMissingFile e then Config.ofSource s.fs file else .error e := by
  unfold configFor
  rw [hnone]
  simp only [h]

end Found

theorem configFor_yields (hfile : hasNull file = false) (P : Span → Prop) :
    Yields (Channel (Escapes s file) P) (Config.BaseNullFree s.fs) (configFor s file) := by
  have hload : ∀ path, ConfigAt s file path →
      Yields (Channel (Escapes s file) P) (Config.BaseNullFree s.fs) (Config.load s.fs path) :=
    fun path hpath => (Config.load_yields s.fs path P).mono
      (fun _ he => he.mono fun _ hf => .config hpath hf) fun _ hc => hc
  cases hconfig : s.config with
  | some path =>
    rw [configFor_of_given hconfig]
    exact hload path (.given hconfig)
  | none =>
    -- a missing file is the only fault of finding a configuration that does not get through
    have hfound : Yields (fun e => isMissingFile e = true ∨ Channel (Escapes s file) P e)
        (Config.BaseNullFree s.fs)
        (Config.find s.fs file >>= fun path => Config.load s.fs path.render) := by
      have hfind : Yields (fun e => e = .fault .configNotFound ∨
          ∃ opened, e = .fault (.access (.blocked .nameTooLong opened))) (fun _ => True)
          (Config.find s.fs file) :=
        Config.find_yields hfile (Or.inl rfl) fun opened => Or.inr ⟨opened, rfl⟩
      cases hpath : Config.find s.fs file with
      | ok path =>
        exact (hload path.render (.found hconfig hpath)).mono (fun _ he => Or.inr he) fun _ hc => hc
      | error e =>
        rw [hpath] at hfind
        rcases hfind with rfl | ⟨opened, rfl⟩
        · exact Or.inl rfl
        · exact Or.inr (.fault (.search hconfig hpath))
    cases hc : Config.find s.fs file >>= fun path => Config.load s.fs path.render with
    | ok c =>
      rw [hc] at hfound
      rw [configFor_of_ok hconfig hc]
      exact hfound
    | error e =>
      rw [hc] at hfound
      rw [configFor_of_error hconfig hc]
      split
      · exact ofSource_yields hfile
      · next hmissing => exact hfound.resolve_left hmissing

theorem read_yields {P : Span → Prop} {base source : String}
    (hnull : s.fs.NullFree → hasNull (sourcePath (some base) source) = false) :
    Yields (Channel (Escapes s file) P) (fun d => Runs s.fs.load (some base) source [] d)
      (Document.read s.fs.load (some base) source) := by
  cases hread : Document.read s.fs.load (some base) source with
  | ok d => exact .read hread
  | error e =>
    have hload : Section.load s.fs.load (sourcePath (some base) source) = .error e := by
      rcases bind_eq_error.1 hread with hload | ⟨_, -, h⟩
      · exact hload
      · cases h
    rcases Section.load_eq_error.1 hload with hload | ⟨-, rfl⟩
    · rcases FileSystem.load_eq_error hload with ⟨cause, rfl⟩ | ⟨rfl, hpath⟩
      · exact .plain
      · refine .fault (.nullAbove fun hfs => ?_)
        rw [hnull hfs] at hpath
        cases hpath
    · exact .plain

/-- The document has been read and gone through macros. -/
def Passed (s : Setting) (base source : String) (d : Document) : Prop :=
  ∃ ops, (∀ op ∈ ops, op.isPass = true) ∧ Runs s.fs.load (some base) source ops d

theorem invoke_yields {c : Config} {invocations : List Invocation} {source : String} {d : Document}
    {i : Invocation} (hc : configFor s file = .ok c) (hi : c.invocations = .ok invocations)
    (hbase : Config.BaseNullFree s.fs c) (hmem : i ∈ invocations) (hready : Config.Ready i)
    (hd : Passed s c.basePath source d) :
    Yields (Channel (Escapes s file) s.fs.load.Shows) (Passed s c.basePath source)
      (d.invoke (.ofFiles s.fs) Macro.builtin i) := by
  obtain ⟨ops, hpass, hruns⟩ := hd
  obtain ⟨hsound, hdbase, -⟩ := hruns.exists_trails
  obtain ⟨m, hm, pass, rfl, hbare⟩ := hready
  have hinvoke : d.invoke (.ofFiles s.fs) Macro.builtin (.checked m.name pass) =
      pass.apply (.ofFiles s.fs) d := by
    cases m with
    | inclusion => rfl
    | lineComment => rfl
    | bare => exact absurd hm (by decide)
  rw [hinvoke]
  cases pass with
  | bare p => exact absurd rfl (hbare p)
  | lineComment p =>
    show Yields _ _ (d.blanking p.matchesIn)
    have hblank := Document.blanking_of_ordered (Section.Abut.ordered hsound.contiguous) p.matchesIn
    rw [hblank]
    exact ⟨.blanking p.matchesIn :: ops, List.forall_mem_cons.2 ⟨rfl, hpass⟩, .next hruns hblank⟩
  | inclusion p =>
    show Yields _ _ (d.including (.ofFiles s.fs) p.find)
    cases hd' : d.including (.ofFiles s.fs) p.find with
    | ok d' =>
      exact ⟨.inclusion p.find :: ops, List.forall_mem_cons.2 ⟨rfl, hpass⟩,
        .next hruns (Scan.ends_of_including hd')⟩
    | error e =>
      have hdrawn : ∀ t ∈ d.sections, t.Drawn s.fs.load fun _ => True := by
        refine Scan.drawn_of_gives fun q hq => ?_
        obtain ⟨y, hgives, htext⟩ := hruns.exists_gives hpass hq
        exact ⟨y, hgives, htext.imp_right fun h => ⟨trivial, h⟩⟩
      refine (Scan.channel_of_including hsound.contiguous hdrawn hd').mono ?_
      rintro f ⟨rfl, path, dir, hdir, hnull⟩
      by_cases hfs : s.fs.NullFree
      · cases htarget : hasNull dir.target with
        | false =>
          rw [hdbase, hasNull_sourcePath (hbase hfs) htarget] at hnull
          cases hnull
        | true =>
          obtain ⟨lines, hload, x, hx, hfind⟩ := hdir.exists_null htarget
          exact .nullInTarget hc hi hmem hload hx hfind htarget
      · exact .nullAbove hfs

/-- **What asking for a document ends with**: a document that macros have gone through, or an error
that is reported, with a span that shows a line if with any, or a fault that is listed. -/
theorem document_yields (hfile : hasNull file = false) :
    Yields (Channel (Escapes s file) s.fs.load.Shows) Document.Sound (document s file) := by
  refine (configFor_yields hfile _).and_eq.bind fun c ⟨hc, hbase⟩ => ?_
  obtain ⟨path, hpath⟩ := FileSystem.exists_resolve s.fs hfile
  rw [hpath]
  have hinvocations : Yields (Channel (Escapes s file) s.fs.load.Shows)
      (fun is => ∀ i ∈ is, Config.Ready i) c.invocations :=
    Config.invocations_yields (fun _ => .plain) fun name hname h =>
      .fault (.reservedOption hc hname h)
  refine hinvocations.and_eq.bind fun invocations ⟨hi, hready⟩ => ?_
  have hnull : s.fs.NullFree → hasNull (sourcePath (some c.basePath) path.render) = false :=
    fun hfs => hasNull_sourcePath (hbase hfs)
      (Path.hasNull_render.2 (FileSystem.nullFree_of_resolve hfs hpath))
  refine (read_yields hnull).bind fun d hread => ?_
  have hpassed : Passed s c.basePath path.render d := ⟨[], fun _ h => (by cases h), hread⟩
  refine (Yields.foldlM (fun d i hmem hd => ?_) hpassed).mono (fun _ he => he) ?_
  · exact invoke_yields hc hi hbase hmem (hready i hmem) hd
  · rintro d ⟨ops, -, hruns⟩
    exact hruns.exists_trails.1

/-! ## Reports -/

/-- A reported error is drawn, if the line it has to show is not too long. -/
theorem drawAlone_of_channel {cause : Cause} {span : Option Span}
    (h : Channel (Escapes s file) s.fs.load.Shows (.reported cause span)) :
    (∃ text, Renderer.drawAlone ⟨s.fs.load, s.color⟩ (cause.diagnostic span) = .ok text) ∨
      Renderer.drawAlone ⟨s.fs.load, s.color⟩ (cause.diagnostic span) =
        .error (.fault .uncountable) ∧ Escapes s file .uncountable := by
  cases h with
  | plain => exact Or.inl ⟨_, rfl⟩
  | @placed _ span h =>
    obtain ⟨lines, hload, x, hx, hstart, hend, hwidth, hlast⟩ := h
    by_cases hlong : LineRange.sizeLimit < x.length
    · cases hdraw : Renderer.drawAlone ⟨s.fs.load, s.color⟩ (cause.diagnostic (some span)) with
      | ok text => exact Or.inl ⟨text, rfl⟩
      | error e =>
        rw [Renderer.eq_uncountable_of_drawAlone hload hdraw]
        exact Or.inr ⟨rfl, .longLine hload hx hlong⟩
    · exact Or.inl (Renderer.exists_drawAlone hload cause hstart (by omega) (by omega))

theorem reportError_settles {e : Error} (hfails : document s file = .error e)
    (h : Channel (Escapes s file) s.fs.load.Shows e) :
    Settled s file (reportError s e) ∨
      ∃ f, Escapes s file f ∧ reportError s e = .uncaught (.fault f) := by
  cases e with
  | fault f =>
    cases h with
    | fault hf => exact Or.inr ⟨f, hf, rfl⟩
  | reported cause span =>
    rcases drawAlone_of_channel h with ⟨text, hdraw⟩ | ⟨hdraw, hlong⟩
    · have hreport : reportError s (.reported cause span) =
          ⟨1, "", text ++ "\n", none, unavailableSource? cause⟩ := by
        simp only [reportError, hdraw]
        rfl
      exact Or.inl (hreport ▸ .diagnosed hfails hdraw)
    · refine Or.inr ⟨.uncountable, hlong, ?_⟩
      simp only [reportError, hdraw]

/-- The operands that a task takes after the file. -/
def Task.Fits : Task → List String → Prop
  | .render _, [] | .sections, [] => True
  | .resolve, [line] => ∃ n, number? line = some n
  | _, _ => False

/-- A task with its operands is something that is done with a document, and with a document it is
settled. -/
theorem Task.Fits.exists_work {task : Task} {rest : List String} (h : task.Fits rest)
    (hfile : checkFile s.fs file = .good) (logged : Bool) : ∃ work : Document → Report,
      runTask s logged task (file :: rest) = .done (perform s file work) logged ∧
      ∀ d, document s file = .ok d → Settled s file (work d) := by
  cases task with
  | render numbered =>
    cases rest with
    | cons line rest => exact h.elim
    | nil =>
      refine ⟨_, runTask_render hfile logged numbered, fun d hd => ?_⟩
      cases numbered with
      | false => exact .answered
      | true =>
        rw [if_pos rfl, renderNumbered_of_contiguous (sound_of_document hd).contiguous]
        exact .answered
  | sections =>
    cases rest with
    | cons line rest => exact h.elim
    | nil => exact ⟨_, runTask_sections hfile logged, fun d hd => .answered⟩
  | resolve =>
    match rest, h with
    | [line], ⟨n, hn⟩ =>
      refine ⟨_, runTask_resolve hfile logged hn, fun d hd => ?_⟩
      have hc := (sound_of_document hd).contiguous
      by_cases hin : 1 ≤ n ∧ n ≤ d.size
      · obtain ⟨-, place, -, hresolve, -⟩ := hc.lookup hin
        rw [resolveLine, hresolve]
        exact .answered
      · rw [resolveLine, (hc.lookup_outside hin).2]
        exact .outside hd (by rwa [d.length_lines])

/-- A configuration file that cannot be read stands in the way of every document, unless it is
merely missing. -/
theorem document_of_readTable {path : String} {f : Fault} (hconfig : ConfigAt s file path)
    (hread : Config.readTable s.fs path = .error (.fault f))
    (hf : isMissingFile (.fault f) = false) : document s file = .error (.fault f) := by
  have hload : Config.load s.fs path = .error (.fault f) := bind_eq_error.2 (Or.inl hread)
  refine bind_eq_error.2 (Or.inl ?_)
  cases hconfig with
  | given h => rw [configFor_of_given h, hload]
  | @found path hnone h =>
    have hfound : (Config.find s.fs file >>= fun path => Config.load s.fs path.render) =
        .error (.fault f) := bind_eq_error.2 (Or.inr ⟨path, h, hload⟩)
    rw [configFor_of_error hnone hfound, hf, if_neg Bool.false_ne_true]

/-- **What a command ends with.** Given a file, and the operands that fit, a command answers, or
fails with a message on the error stream, or lets one of the listed faults through. It always lets
through what keeps the configuration file from being read, if that is not that it is missing. -/
theorem runTask_settles {task : Task} {rest : List String} (hfile : checkFile s.fs file = .good)
    (hfits : task.Fits rest) (logged : Bool) : ∃ report,
      runTask s logged task (file :: rest) = .done report logged ∧
      (Settled s file report ∨ ∃ f, Escapes s file f ∧ report = .uncaught (.fault f)) ∧
      ∀ path f, ConfigAt s file path → Config.readTable s.fs path = .error (.fault f) →
        isMissingFile (.fault f) = false → report = .uncaught (.fault f) := by
  obtain ⟨work, hrun, hwork⟩ := hfits.exists_work hfile logged
  refine ⟨_, hrun, ?_, fun path f hconfig hread hf => ?_⟩
  · have hdocument := document_yields (s := s) (hasNull_of_checkFile hfile)
    unfold perform
    cases hd : document s file with
    | ok d => exact Or.inl (hwork d hd)
    | error e =>
      rw [hd] at hdocument
      exact reportError_settles hd hdocument
  · rw [perform, document_of_readTable hconfig hread hf]
    rfl

/-- A file beside a configuration file of one octet, which is not UTF-8. -/
def malformedConfig : Setting where
  fs := ⟨.directory [("doc.txt", .file "a\n".toUTF8), ("logical_file.toml", .file ⟨#[0xff]⟩)], []⟩
  config := none
  color := true

theorem configAt_malformedConfig : ConfigAt malformedConfig "doc.txt" "/logical_file.toml" :=
  @ConfigAt.found malformedConfig "doc.txt" ⟨.root, ["logical_file.toml"]⟩ rfl (by decide +kernel)

theorem readTable_malformedConfig : Config.readTable malformedConfig.fs "/logical_file.toml" =
    .error (.fault (.malformed ⟨0, [0xff], .badStart⟩)) := by
  have hread : malformedConfig.fs.read "/logical_file.toml" = .ok ⟨#[0xff]⟩ := rfl
  exact Config.readTable_of_malformed hread (by decide +kernel)

/-- The octet gets through as a fault. -/
theorem runTask_settles_malformed : checkFile malformedConfig.fs "doc.txt" = .good ∧
    Task.Fits (.render false) [] ∧
    runTask malformedConfig false (.render false) ["doc.txt"] =
      .done (.uncaught (.fault (.malformed ⟨0, [0xff], .badStart⟩))) false := by
  have hfile : checkFile malformedConfig.fs "doc.txt" = .good := rfl
  obtain ⟨report, hrun, -, hescapes⟩ :=
    @runTask_settles malformedConfig "doc.txt" (.render false) [] hfile trivial false
  refine ⟨hfile, trivial, ?_⟩
  rw [hrun, hescapes _ _ configAt_malformedConfig readTable_malformedConfig rfl]

/-- The program prints nothing then, and leaves the fault to whoever has called it. -/
theorem run_malformedConfig : ∃ report,
    run malformedConfig.fs false ["render", "doc.txt"] = .done report false ∧ report.exitCode = 1 ∧
      report.out = "" ∧ report.err = "" ∧
      report.escaped = some (.fault (.malformed ⟨0, [0xff], .badStart⟩)) := by
  have htask : runWithSequences malformedConfig.fs ["render", "doc.txt"] =
      runTask malformedConfig false (.render false) ["doc.txt"] := rfl
  have hfile : checkFile malformedConfig.fs "doc.txt" = .good := rfl
  have hdocument := document_of_readTable configAt_malformedConfig readTable_malformedConfig rfl
  rw [run, htask, runTask_render hfile, perform, hdocument]
  have hempty : Ansi.strip "" = "" := by decide +kernel
  exact ⟨(Report.uncaught (.fault (.malformed ⟨0, [0xff], .badStart⟩))).stripped, rfl, rfl, hempty,
    hempty, rfl⟩

end Command

end Patchwork
