import Patchwork.Command.Run
import Patchwork.Proofs.Source.ReadBack

/-!
# Three reports on one document

A document is printed by counting its lines from 1 on, a line is located by looking up the section
that holds it, and the sections are listed as they are stored. The three reports agree because the
documents that are loaded are contiguous (`reports_agree`). What they print is spelled out there,
down to the spaces.
-/

namespace Patchwork

namespace Command

variable {s : Setting} {file : String} {d : Document}

/-! ## Loaded documents -/

/-- A document that is loaded has been read from files and gone through macros. -/
theorem exists_runs_of_document (h : document s file = .ok d) :
    ∃ base source ops, (∀ op ∈ ops, op.isPass = true) ∧ Runs s.fs.load base source ops d := by
  obtain ⟨c, -, h⟩ := bind_eq_ok.1 h
  obtain ⟨path, -, h⟩ := bind_eq_ok.1 h
  obtain ⟨invocations, -, h⟩ := bind_eq_ok.1 h
  obtain ⟨ops, hpass, hruns⟩ := exists_runs_of_readAndInvoke h
  exact ⟨_, _, ops, hpass, hruns⟩

theorem sound_of_document (h : document s file = .ok d) : d.Sound := by
  obtain ⟨base, source, ops, -, hruns⟩ := exists_runs_of_document h
  exact hruns.exists_trails.1

theorem isBreak_of_document (h : document s file = .ok d) :
    ∀ x ∈ d.lines, ∀ c ∈ x.toList, Text.isBreak c = false := by
  obtain ⟨base, source, ops, hpass, hruns⟩ := exists_runs_of_document h
  intro x hx c hc
  exact (oneLine_of_runs hruns hpass x hx c hc).1

/-! ## Numbered rows -/

theorem numberedRow_eq (width n : Nat) (place : Location) (text : String) :
    numberedRow width n place text =
      String.ofList (List.replicate (width - (toString n).length) ' ') ++ toString n ++ " " ++
        place.path ++ ":" ++ toString place.line ++ " | " ++ text := by
  show Text.alignRight width (toString n) ++ " " ++ (place.path ++ ":" ++ toString place.line) ++
    " | " ++ text = _
  simp only [Text.alignRight, Text.spaces, String.append_assoc]

theorem numberedRows_cons {width n : Nat} {place : Location} (h : d.resolve n = .ok place)
    (text : String) {rest rows : List String} {failure : Option Error}
    (hrest : numberedRows d width (n + 1) rest = (rows, failure)) :
    numberedRows d width n (text :: rest) = (numberedRow width n place text :: rows, failure) := by
  rw [numberedRows, h]
  simp only [hrest]

theorem numberedRows_eq (d : Document) (width n : Nat) (entries : List (String × Location))
    (h : ∀ (i : Nat) x q, entries[i]? = some (x, q) → d.resolve ((n + i : Nat) : Int) = .ok q) :
    numberedRows d width n (entries.map (·.1)) =
      (entries.mapIdx fun i e => numberedRow width (n + i) e.2 e.1, none) := by
  induction entries generalizing n with
  | nil => rfl
  | cons e entries ih =>
    have hshift : ∀ i : Nat, n + 1 + i = n + (i + 1) := fun i => by omega
    have hrest := ih (n + 1) fun i x q hi => hshift i ▸ h (i + 1) x q hi
    simp only [hshift] at hrest
    rw [List.map_cons, List.mapIdx_cons]
    exact numberedRows_cons (h 0 e.1 e.2 rfl) e.1 hrest

/-- The rows for the lines of a contiguous document. -/
def rowsOf (d : Document) : List String :=
  d.located.mapIdx fun i e => numberedRow (toString d.lastLine).length (1 + i) e.2 e.1

theorem renderNumbered_of_contiguous (h : d.Contiguous) :
    renderNumbered d = ⟨0, String.join ((rowsOf d).map (· ++ "\n")), "", none, none⟩ := by
  have hresolve : ∀ (i : Nat) x q, d.located[i]? = some (x, q) →
      d.resolve ((1 + i : Nat) : Int) = .ok q := by
    intro i x q hi
    refine (h.lists_located.2 _ q).2 ⟨i, by omega, ?_⟩
    rw [List.getElem?_map, hi]
    rfl
  rw [renderNumbered, ← d.map_fst_located, numberedRows_eq d _ 1 d.located hresolve]
  rfl

theorem length_rowsOf (d : Document) : (rowsOf d).length = d.lines.length := by
  rw [rowsOf, List.length_mapIdx, ← d.map_fst_located, List.length_map]

theorem getElem?_rowsOf {k : Int} {x : String} {q : Location} (hk : 1 ≤ k)
    (h : d.located[(k - 1).toNat]? = some (x, q)) :
    (rowsOf d)[(k - 1).toNat]? = some (String.ofList
        (List.replicate ((toString d.lastLine).length - (toString k).length) ' ') ++ toString k ++
      " " ++ q.path ++ ":" ++ toString q.line ++ " | " ++ x) := by
  have hindex : 1 + (k - 1).toNat = k.toNat := by omega
  have htext : toString k = toString k.toNat := by
    obtain ⟨n, rfl⟩ := Int.eq_ofNat_of_zero_le (by omega : 0 ≤ k)
    rfl
  rw [rowsOf, List.getElem?_mapIdx, h, Option.map_some, hindex, numberedRow_eq, htext]

/-! ## Rows of sections -/

theorem sectionRow_eq (t : Section) : sectionRow t =
    let range := toString t.range.first ++ ".." ++ toString t.range.last
    range ++ String.ofList (List.replicate (12 - range.length) ' ') ++ " " ++
      String.ofList (List.replicate (6 - (toString t.offset).length) ' ') ++ toString t.offset ++
      "  " ++ t.path := by
  show Text.alignLeft 12 (toString t.range.first ++ ".." ++ toString t.range.last) ++ " " ++
    Text.alignRight 6 (toString t.offset) ++ "  " ++ t.path = _
  simp only [Text.alignLeft, Text.alignRight, Text.spaces, String.append_assoc]

/-! ## Numerals -/

theorem digitsValue_eq {cs : List Char} (h : ∀ c ∈ cs, c.isDigit = true) (soFar : Nat) :
    digitsValue soFar cs = some (Nat.ofDigitChars 10 cs soFar) := by
  induction cs generalizing soFar with
  | nil => rfl
  | cons c cs ih =>
    obtain ⟨hc, hcs⟩ := List.forall_mem_cons.1 h
    have hne : c ≠ '_' := by
      rintro rfl
      exact absurd hc (by decide)
    have hvalue : Text.digitValue? c = some (c.toNat - '0'.toNat) := if_pos hc
    rw [digitsValue, hvalue, Nat.ofDigitChars_cons]
    · exact ih hcs _
    · rintro d rest rfl
      exact absurd rfl hne

theorem isAroundNumber_of_isDigit {c : Char} (h : c.isDigit = true) : isAroundNumber c = false := by
  have hc : 48 ≤ c.toNat ∧ c.toNat ≤ 57 := by
    simpa [Char.isDigit, UInt32.le_iff_toNat_le] using h
  unfold isAroundNumber Text.isBlank
  simp only [Bool.and_eq_false_iff]
  left
  simp only [Bool.or_eq_false_iff, Bool.and_eq_false_iff, decide_eq_false_iff_not,
    beq_eq_false_iff_ne]
  omega

theorem unsigned?_eq {cs : List Char} (hne : cs ≠ []) (hdigits : ∀ c ∈ cs, c.isDigit = true)
    (hlength : cs.length ≤ digitLimit) :
    number?.unsigned? cs = some (Nat.ofDigitChars 10 cs 0) := by
  have hscore : ∀ c ∈ cs, c ≠ '_' := by
    rintro c hc rfl
    exact absurd (hdigits _ hc) (by decide)
  have hfilter : cs.filter (· != '_') = cs :=
    List.filter_eq_self.2 fun c hc => bne_iff_ne.2 (hscore c hc)
  unfold number?.unsigned?
  split
  · exact absurd rfl hne
  · exact absurd rfl (hscore '_' List.mem_cons_self)
  · rw [hfilter, if_neg (Nat.not_lt.2 hlength), digitsValue_eq hdigits]

/-- A number that is not too long is read from its numeral. -/
theorem number?_toString {k : Int} (h : (toString k.natAbs).length ≤ digitLimit) :
    number? (toString k) = some k := by
  have hlist : ∀ n : Nat, (toString n).toList = Nat.toDigits 10 n := fun n => Nat.toList_repr
  have hdigits : ∀ c ∈ Nat.toDigits 10 k.natAbs, c.isDigit = true := fun c hc =>
    Nat.isDigit_of_mem_toDigits (by decide) (by decide) hc
  rw [← String.length_toList, hlist] at h
  have hread := unsigned?_eq Nat.toDigits_ne_nil hdigits h
  rw [Nat.ofDigitChars_toDigits (by decide) (by decide)] at hread
  have hnot : ∀ c ∈ Nat.toDigits 10 k.natAbs, isAroundNumber c = false := fun c hc =>
    isAroundNumber_of_isDigit (hdigits c hc)
  unfold number?
  cases k with
  | ofNat n =>
    have htext : (toString (Int.ofNat n)).toList = Nat.toDigits 10 n := hlist n
    rw [Text.trimBy_eq (htext ▸ hnot), htext]
    split
    · next heq => exact absurd (hdigits '-' (by simp [heq])) (by decide)
    · next heq => exact absurd (hdigits '+' (by simp [heq])) (by decide)
    · have hread : number?.unsigned? (Nat.toDigits 10 n) = some n := hread
      rw [hread]
      rfl
  | negSucc n =>
    have htext : (toString (Int.negSucc n)).toList = '-' :: Nat.toDigits 10 (n + 1) := by
      show ("-" ++ (n + 1).repr).toList = _
      rw [String.toList_append, Nat.toList_repr]
      rfl
    have htrim : ∀ c ∈ (toString (Int.negSucc n)).toList, isAroundNumber c = false := by
      rw [htext]
      exact List.forall_mem_cons.2 ⟨by decide, hnot⟩
    rw [Text.trimBy_eq htrim, htext]
    have hread : number?.unsigned? (Nat.toDigits 10 (n + 1)) = some (n + 1) := hread
    simp only [hread]
    rfl

/-! ## Commands with their operands -/

section Operands

variable (hfile : checkFile s.fs file = .good) (logged : Bool)

include hfile

theorem runTask_render (numbered : Bool) : runTask s logged (.render numbered) [file] =
    .done (perform s file (if numbered then renderNumbered else renderPlain)) logged := by
  simp only [runTask, withFile, hfile]

theorem runTask_sections :
    runTask s logged .sections [file] = .done (perform s file listSections) logged := by
  simp only [runTask, withFile, hfile]

theorem runTask_resolve {line : String} {n : Int} (hline : number? line = some n) :
    runTask s logged .resolve [file, line] =
      .done (perform s file fun d => resolveLine d n) logged := by
  simp only [runTask, withFile, hfile, hline]

end Operands

theorem perform_of_document (h : document s file = .ok d) (work : Document → Report) :
    perform s file work = work d := by
  rw [perform, h]

/-- What is printed for a line that is there. -/
theorem resolveLine_of_ok {n : Int} {place : Location} (h : d.resolve n = .ok place) :
    resolveLine d n = ⟨0, place.path ++ ":" ++ toString place.line ++ "\n", "", none, none⟩ := by
  rw [resolveLine, h]
  rfl

/-- What is printed for a number that no line has. -/
theorem resolveLine_outside (h : d.Contiguous) {n : Int} (hn : ¬(1 ≤ n ∧ n ≤ d.size)) :
    resolveLine d n = ⟨1, "", "error: line " ++ toString n ++
      " is outside the logical file (1.." ++ toString d.size ++ ")\n", none, none⟩ := by
  rw [resolveLine, (h.lookup_outside hn).2, h.lastLine_eq]
  show Report.mk 1 "" ("error: " ++ ("line " ++ toString n ++ " is outside the logical file (1.." ++
    toString d.size ++ ")") ++ "\n") none none = _
  simp only [String.append_assoc]
  rfl

/-- **The three commands describe one document.** With numbers, `render` prints a row for each line:
its number, to the right in a column as wide as the last number, the place it comes from, and the
text that `render` prints without numbers. That place is what `resolve` prints for the number, which
it reads from the numeral or however else it is written, and it fails on all other numbers. The
sections listed, by range, offset and path, abut from line 1 to the last line, and the only one that
holds a line tells its place by path and offset. -/
theorem reports_agree (hfile : checkFile s.fs file = .good) (h : document s file = .ok d)
    (logged : Bool) :
    ∃ rows : List String,
      runTask s logged (.render true) [file] =
        .done ⟨0, String.join (rows.map (· ++ "\n")), "", none, none⟩ logged ∧
      runTask s logged (.render false) [file] =
        .done ⟨0, String.intercalate "\n" d.lines ++ "\n", "", none, none⟩ logged ∧
      runTask s logged .sections [file] = .done ⟨0, String.join (d.sections.map fun t =>
          let range := toString t.range.first ++ ".." ++ toString t.range.last
          range ++ String.ofList (List.replicate (12 - range.length) ' ') ++ " " ++
            String.ofList (List.replicate (6 - (toString t.offset).length) ' ') ++
            toString t.offset ++ "  " ++ t.path ++ "\n"), "", none, none⟩ logged ∧
      rows.length = d.lines.length ∧
      (String.intercalate "\n" d.lines).toList.splitOn '\n' = d.lines.map String.toList ∧
      Section.Abut 1 d.sections ∧ d.lastLine = d.lines.length ∧
      d.sections.getLast?.map (·.range.last) = some (d.lines.length : Int) ∧
      ∀ k : Int,
        ((toString k.natAbs).length ≤ digitLimit → number? (toString k) = some k) ∧
        (1 ≤ k ∧ k ≤ d.lines.length → ∃ text path line before holder after,
          d.lines[(k - 1).toNat]? = some text ∧
          rows[(k - 1).toNat]? = some (String.ofList (List.replicate
              ((toString d.lines.length).length - (toString k).length) ' ') ++ toString k ++ " " ++
            path ++ ":" ++ toString line ++ " | " ++ text) ∧
          (∀ operand, number? operand = some k → runTask s logged .resolve [file, operand] =
            .done ⟨0, path ++ ":" ++ toString line ++ "\n", "", none, none⟩ logged) ∧
          d.sections = before ++ holder :: after ∧ k ∈ holder.range ∧
          (∀ t ∈ before ++ after, k ∉ t.range) ∧ path = holder.path ∧ line = k + holder.offset) ∧
        (¬(1 ≤ k ∧ k ≤ d.lines.length) → ∀ operand, number? operand = some k →
          runTask s logged .resolve [file, operand] = .done ⟨1, "", "error: line " ++ toString k ++
            " is outside the logical file (1.." ++ toString d.lines.length ++ ")\n",
            none, none⟩ logged) := by
  have hd := sound_of_document h
  have hc := hd.contiguous
  have hsize := d.length_lines
  have hlast : d.lastLine = d.lines.length := by rw [hc.lastLine_eq, hsize]
  refine ⟨rowsOf d, ?_, ?_, ?_, length_rowsOf d, ?_, hc, hlast, ?_, fun k =>
    ⟨number?_toString, fun hk => ?_, fun hk operand hoperand => ?_⟩⟩
  · rw [runTask_render hfile, if_pos rfl, perform_of_document h, renderNumbered_of_contiguous hc]
  · rw [runTask_render hfile, if_neg Bool.false_ne_true, perform_of_document h, renderPlain]
    rfl
  · rw [runTask_sections hfile, perform_of_document h, listSections,
      List.map_congr_left fun t _ => sectionRow_eq t, rowsReport, List.map_map]
    rfl
  · exact Text.splitOn_joinLines hd.lines_ne_nil (isBreak_of_document h)
  · rw [← hlast, Document.lastLine, List.getLast?_eq_some_getLast hd.ne_nil]
    rfl
  · rw [hsize] at hk
    obtain ⟨text, place, -, hresolve, hat⟩ := hc.lookup hk
    obtain ⟨before, holder, after, hsections, hmem, hbefore, -⟩ :=
      hc.exists_section ((hc.exists_mem_iff k).2 hk)
    have hordered := Section.Abut.ordered hc
    rw [hsections] at hordered
    have hplace : d.resolve k = .ok ⟨holder.path, k + holder.offset⟩ := by
      rw [Document.resolve, Document.owner_eq hsections hbefore hmem]
      exact holder.resolve_of_mem hmem
    obtain rfl := Except.ok.inj (hresolve.symm.trans hplace)
    refine ⟨text, holder.path, k + holder.offset, before, holder, after, ?_, ?_, ?_, hsections,
      hmem, ?_, rfl, rfl⟩
    · rw [← d.map_fst_located, List.getElem?_map, hat]
      rfl
    · rw [getElem?_rowsOf hk.1 hat, hlast]
      rfl
    · intro operand hoperand
      rw [runTask_resolve hfile logged hoperand, perform_of_document h, resolveLine_of_ok hresolve]
    · obtain ⟨hb, ha⟩ := hordered.not_mem_of_mem hmem
      exact List.forall_mem_append.2 ⟨hb, ha⟩
  · rw [hsize] at hk ⊢
    rw [runTask_resolve hfile logged hoperand, perform_of_document h, resolveLine_outside hc hk]

/-- A document of two files. -/
def twoFiles : Setting where
  fs := ⟨.directory [("main.txt", .file "a\n%(part.txt)\nb\n".toUTF8),
    ("part.txt", .file "c\n%% d\ne\n".toUTF8)], []⟩
  config := none
  color := false

/-- The part cuts `main.txt` in two, and the document has six lines; there is no seventh. -/
theorem reports_agree_main : checkFile twoFiles.fs "main.txt" = .good ∧
    (∃ d, document twoFiles "main.txt" = .ok d) ∧
    (∃ rows : List String, runTask twoFiles false (.render true) ["main.txt"] =
        .done ⟨0, String.join (rows.map (· ++ "\n")), "", none, none⟩ false ∧
      rows.length = 6 ∧ rows[3]? = some "4 /part.txt:3 | e") ∧
    runTask twoFiles false (.render true) ["main.txt"] =
      .done ⟨0, "1 /main.txt:1 | a\n2 /part.txt:1 | c\n3 /part.txt:2 |     \n" ++
        "4 /part.txt:3 | e\n5 /main.txt:2 |            \n6 /main.txt:3 | b\n",
        "", none, none⟩ false ∧
    runTask twoFiles false (.render false) ["main.txt"] =
      .done ⟨0, "a\nc\n    \ne\n           \nb\n", "", none, none⟩ false ∧
    runTask twoFiles false .sections ["main.txt"] =
      .done ⟨0, "1..1              0  /main.txt\n2..4             -1  /part.txt\n" ++
        "5..6             -3  /main.txt\n", "", none, none⟩ false ∧
    runTask twoFiles false .resolve ["main.txt", "4"] =
      .done ⟨0, "/part.txt:3\n", "", none, none⟩ false ∧
    runTask twoFiles false .resolve ["main.txt", "7"] =
      .done ⟨1, "", "error: line 7 is outside the logical file (1..6)\n", none, none⟩ false := by
  have hfile : checkFile twoFiles.fs "main.txt" = .good := rfl
  have hdocument : (document twoFiles "main.txt").toOption = some ⟨some "/",
      [⟨"/main.txt", ⟨1, 1, by decide⟩, ["a"], 0, rfl, by decide⟩,
        ⟨"/part.txt", ⟨2, 4, by decide⟩, ["c", "    ", "e"], -1, rfl, by decide⟩,
        ⟨"/main.txt", ⟨5, 6, by decide⟩, ["           ", "b"], -3, rfl, by decide⟩]⟩ := by
    decide +kernel
  have hd := eq_ok_of_toOption hdocument
  obtain ⟨rows, hnumbered, hplain, hlisted, hlength, -, -, -, -, hat⟩ :=
    reports_agree hfile hd false
  obtain ⟨text, path, line, before, holder, after, htext, hrow, hprints, hsections, hmem, -, rfl,
    rfl⟩ := (hat 4).2.1 (by decide)
  obtain rfl := Option.some.inj htext
  have hplace : holder.path = "/part.txt" ∧ 4 + holder.offset = 3 := by
    have hholder : holder ∈ before ++ holder :: after := by simp
    rw [← hsections] at hholder
    simp only [List.mem_cons, List.not_mem_nil, or_false] at hholder
    rcases hholder with rfl | rfl | rfl
    · exact absurd hmem (by decide)
    · exact ⟨rfl, rfl⟩
    · exact absurd hmem (by decide)
  rw [hplace.1, hplace.2] at hrow hprints
  refine ⟨hfile, ⟨_, hd⟩, ⟨rows, hnumbered, hlength, hrow⟩, ?_, hplain, hlisted,
    hprints "4" (by decide), (hat 7).2.2 (by decide) "7" (by decide)⟩
  rw [runTask_render hfile, if_pos rfl, perform_of_document hd]
  rfl

end Command

end Patchwork
