import Patchwork.Pass
import Patchwork.Proofs.Diagnostic.Colors
import Patchwork.Proofs.Diagnostic.Drawing
import Patchwork.Proofs.Include.Captured
import Patchwork.Proofs.Source.ReadBack

/-!
# Carets

Drawn without colours, an excerpt shows its line behind a gutter that grows with the number of the
line, and the carets below it stand behind one that does not. So the carets miss the span by the
difference (`Renderer.carets_displaced`): they are two columns too far to the left as long as the
number has at most four digits, and one more for every further digit.

Whether the columns of the span are those of a captured text is another matter, and there nothing is
lost: an error that including reports points at what a directive captures, on the line that the
excerpt shows.
-/

namespace Patchwork

namespace Text

/-! ## Rows of a text -/

/-- The rows in which a text is shown: what stands between its line feeds. -/
def rows (text : String) : List (List Char) := text.toList.splitOn '\n'

theorem rows_of_not_mem {text : String} (h : '\n' ∉ text.toList) : rows text = [text.toList] :=
  List.splitOn_eq_singleton h

/-- Joining texts puts their rows below each other. -/
theorem rows_joinLines {ls : List String} (h : ls ≠ []) : rows (joinLines ls) = ls.flatMap rows := by
  have hfeed : "\n".toList = ['\n'] := rfl
  rw [rows, joinLines, String.toList_intercalate, hfeed]
  induction ls with
  | nil => exact absurd rfl h
  | cons x ls ih =>
    cases ls with
    | nil => simp [rows]
    | cons y ls =>
      have ih := ih (List.cons_ne_nil y ls)
      rw [List.map_cons] at ih
      rw [List.map_cons, List.map_cons, List.intercalate_cons_cons, List.flatMap_cons, ← ih,
        List.append_assoc, List.singleton_append, List.splitOn_append_cons_self]
      rfl

end Text

theorem getElem?_append_replicate {pre : List Char} {c : Char} (hpre : c ∉ pre) (n i : Nat) :
    (pre ++ List.replicate n c)[i]? = some c ↔ pre.length ≤ i ∧ i < pre.length + n := by
  rcases Nat.lt_or_ge i pre.length with hi | hi
  · rw [List.getElem?_append_left hi]
    constructor
    · intro h
      exact absurd (List.mem_of_getElem? h) hpre
    · intro h
      omega
  · rw [List.getElem?_append_right hi, List.getElem?_replicate]
    by_cases hn : i - pre.length < n
    · rw [if_pos hn]
      simp
      omega
    · rw [if_neg hn]
      simp
      omega

namespace Renderer

/-! ## Rows of an excerpt -/

/-- How many columns the number of a line takes in front of an excerpt. -/
def numberWidth (line : Int) : Nat := max 4 (toString line).length

/-- The row `carets` has its carets `left` columns to the left of those columns at which the row
`excerpt`, which ends in `source`, shows the characters `first` to `last` of it, counted from 1. -/
def Underlines (carets excerpt : List Char) (source : String) (first last : Int) (left : Nat) :
    Prop :=
  ∃ head : List Char, excerpt = head ++ source.toList ∧
    ∀ i : Nat, carets[i]? = some '^' ↔
      ∃ k : Int, first ≤ k ∧ k ≤ last ∧ (i + left : Int) = head.length + (k - 1)

/-- The span is a stretch of one line of a source, and this line reads `source`. -/
structure Covers (load : Loader) (span : Span) (source : String) : Prop where
  readable : ∃ lines, load span.file = .ok lines ∧ nth lines span.startLine = some source
  one_line : span.startLine = span.endLine
  one_le : 1 ≤ span.startCol
  start_le : span.startCol ≤ span.endCol
  end_le : span.endCol ≤ source.length

variable {r : Renderer}

/-- What stands in front of the source in an excerpt. -/
def gutter (line : Int) : List Char :=
  ' ' :: ' ' :: (Text.alignRight 4 (toString line)).toList ++ " | ".toList

theorem length_gutter (line : Int) : (gutter line).length = numberWidth line + 5 := by
  have hnumber : (Text.alignRight 4 (toString line)).toList.length = numberWidth line := by
    rw [String.length_toList, Text.length_alignRight, numberWidth]
  have hbar : " | ".toList.length = 3 := rfl
  rw [gutter, List.length_append, List.length_cons, List.length_cons, hnumber, hbar]

theorem not_mem_gutter (line : Int) : '\n' ∉ gutter line := by
  have hnumber : '\n' ∉ (toString line).toList := Text.not_mem_toString (by decide) (by decide) line
  simpa [gutter, Text.toList_alignRight] using hnumber

theorem toList_sourceRow (hcolor : r.color = false) (span : Span) (source : String) :
    (r.sourceRow span source).toList = gutter span.startLine ++ source.toList := by
  rw [sourceRow, framed_of_color hcolor]
  simp [gutter]

theorem toList_caretRow (hcolor : r.color = false) {severity : Severity} {span : Span} {row : String}
    (h : r.caretRow severity span = .ok row) :
    row.toList = "     | ".toList ++ List.replicate (span.startCol - 1).toNat ' ' ++
      List.replicate (max 1 (span.endCol - span.startCol + 1)).toNat '^' := by
  obtain ⟨padding, hpadding, h⟩ := bind_eq_ok.1 h
  obtain ⟨carets, hcarets, h⟩ := bind_eq_ok.1 h
  obtain rfl := Except.ok.inj h
  rw [framed_of_color hcolor]
  simp [painted, paint, plain, hcolor, repeated_eq_ok hpadding, repeated_eq_ok hcarets]

theorem underlines_caretRow (hcolor : r.color = false) {severity : Severity} {span : Span}
    {source row : String} (hspan : Covers r.load span source)
    (h : r.caretRow severity span = .ok row) :
    Underlines row.toList (r.sourceRow span source).toList source span.startCol span.endCol
      (numberWidth span.startLine - 2) := by
  refine ⟨gutter span.startLine, toList_sourceRow hcolor span source, ?_⟩
  intro i
  have hone := hspan.one_le
  have hle := hspan.start_le
  have hwidth : 4 ≤ numberWidth span.startLine := Nat.le_max_left _ _
  have hpre : '^' ∉ "     | ".toList ++ List.replicate (span.startCol - 1).toNat ' ' := by
    simp
  have hlength : ("     | ".toList ++ List.replicate (span.startCol - 1).toNat ' ').length =
      7 + (span.startCol - 1).toNat := by
    rw [List.length_append, List.length_replicate]
    rfl
  rw [toList_caretRow hcolor h, getElem?_append_replicate hpre, hlength, length_gutter]
  constructor
  · intro hi
    exact ⟨i - 6, by omega, by omega, by omega⟩
  · rintro ⟨k, hfirst, hlast, hk⟩
    omega

/-! ## Rows of a label -/

/-- The rows of a label. Where its span covers part of a line, they show its place, a gap, the line,
and the carets, too far to the left by all that the number takes beyond two columns. -/
def Marked (r : Renderer) (label : Label) (block : List (List Char)) : Prop :=
  ∀ source, Covers r.load label.span source → ∃ excerpt carets message,
    block = Text.rows ("  --> " ++ label.span.render) ++
      "     |".toList :: excerpt :: carets :: message ∧
    Underlines carets excerpt source label.span.startCol label.span.endCol
      (numberWidth label.span.startLine - 2)

theorem mem_of_nth {ls : List String} {n : Int} {x : String} (h : nth ls n = some x) : x ∈ ls := by
  unfold nth at h
  split at h
  · exact List.mem_of_getElem? h
  · cases h

theorem sourceOf_of_covers {span : Span} {source : String} (h : Covers r.load span source) :
    r.sourceOf span = .ok (some source) := by
  obtain ⟨lines, hload, hnth⟩ := h.readable
  rw [sourceOf, lookAt, hload]
  show Except.ok (nth lines span.startLine) = _
  rw [hnth]

/-- The rows of a label whose line can be read, up to its message. -/
theorem rowsOf_of_covers {severity : Severity} {label : Label} {rows : List String} {source : String}
    (hspan : Covers r.load label.span source) (h : r.rowsOf severity label = .ok rows) :
    ∃ carets message, r.caretRow severity label.span = .ok carets ∧
      rows = r.framed "-->" (" " ++ label.span.render) :: r.framed "   |" "" ::
        r.sourceRow label.span source :: carets :: message := by
  obtain ⟨found, hfound, h⟩ := bind_eq_ok.1 h
  obtain rfl := Except.ok.inj ((sourceOf_of_covers hspan).symm.trans hfound)
  obtain ⟨excerpt, hexcerpt, h⟩ := bind_eq_ok.1 h
  obtain rfl := Except.ok.inj h
  simp only [excerptRows, if_pos hspan.one_line] at hexcerpt
  obtain ⟨carets, hcarets, hexcerpt⟩ := bind_eq_ok.1 hexcerpt
  obtain rfl := Except.ok.inj hexcerpt
  exact ⟨carets, _, hcarets, rfl⟩

theorem marked_of_rowsOf (hcolor : r.color = false)
    (hload : ∀ path lines, r.load path = .ok lines → ∀ x ∈ lines, '\n' ∉ x.toList)
    {severity : Severity} {label : Label} {rows : List String}
    (h : r.rowsOf severity label = .ok rows) : r.Marked label (rows.flatMap Text.rows) := by
  intro source hspan
  obtain ⟨carets, message, hcarets, rfl⟩ := rowsOf_of_covers hspan h
  have hexcerpt : '\n' ∉ (r.sourceRow label.span source).toList := by
    obtain ⟨lines, hlines, hnth⟩ := hspan.readable
    rw [toList_sourceRow hcolor, List.mem_append, not_or]
    exact ⟨not_mem_gutter _, hload _ _ hlines source (mem_of_nth hnth)⟩
  have hrow : '\n' ∉ carets.toList := by
    rw [toList_caretRow hcolor hcarets]
    simp
  have hplace : r.framed "-->" (" " ++ label.span.render) = "  --> " ++ label.span.render := by
    rw [framed_of_color hcolor, ← String.append_assoc]
    rfl
  have hgap : Text.rows (r.framed "   |" "") = ["     |".toList] := by
    rw [framed_of_color hcolor]
    rfl
  refine ⟨(r.sourceRow label.span source).toList, carets.toList, message.flatMap Text.rows, ?_,
    underlines_caretRow hcolor hspan hcarets⟩
  simp only [List.flatMap_cons, Text.rows_of_not_mem hexcerpt, Text.rows_of_not_mem hrow, hgap,
    hplace]
  rfl

/-! ## Rows of a diagnostic -/

theorem rows_of_answer (hcolor : r.color = false)
    (hload : ∀ path lines, r.load path = .ok lines → ∀ x ∈ lines, '\n' ∉ x.toList)
    {d : Diagnostic} {text : String} (h : r.answer d = .ok text) :
    ∃ blocks, Text.rows text = Text.rows (r.header d) ++ blocks.flatten ++
        d.notes.flatMap (fun note => Text.rows (r.noteRow note)) ∧
      List.Forall₂ r.Marked d.labels blocks := by
  obtain ⟨drawn, hdrawn, h⟩ := bind_eq_ok.1 h
  obtain rfl := Except.ok.inj h
  refine ⟨drawn.map fun rows => rows.flatMap Text.rows, ?_, ?_⟩
  · rw [Text.rows_joinLines (by simp)]
    simp only [List.cons_append, List.flatMap_cons, List.flatMap_append, List.flatMap_map,
      List.append_assoc]
    simp only [List.flatMap, List.map_flatten, List.flatten_flatten, List.map_map,
      Function.comp_def]
  · rw [List.forall₂_map_right_iff]
    exact (forall₂_of_mapM hdrawn).imp fun _ _ hrows => marked_of_rowsOf hcolor hload hrows

/-- Draws for the sources in files, without colours. -/
def uncolored (fs : FileSystem) : Renderer := ⟨fs.load, false⟩

variable {fs : FileSystem}

theorem rows_of_uncolored {d : Diagnostic} {text : String} (h : (uncolored fs).answer d = .ok text) :
    ∃ blocks, Text.rows text = Text.rows ((uncolored fs).header d) ++ blocks.flatten ++
        d.notes.flatMap (fun note => Text.rows ((uncolored fs).noteRow note)) ∧
      List.Forall₂ (uncolored fs).Marked d.labels blocks := by
  refine rows_of_answer rfl ?_ h
  intro path lines hlines x hx hfeed
  exact absurd (FileSystem.oneLine_of_load hlines x hx '\n' hfeed).1 (by decide)

/-- The diagnostic of an error whose span covers part of a line. -/
theorem rows_of_covers {cause : Cause} {span : Span} {source text : String}
    (hspan : Covers fs.load span source)
    (h : (uncolored fs).drawAlone (cause.diagnostic (some span)) = .ok text) :
    ∃ excerpt carets below,
      Text.rows text = Text.rows ((uncolored fs).header (cause.diagnostic (some span))) ++
        Text.rows ("  --> " ++ span.render) ++ "     |".toList :: excerpt :: carets :: below ∧
      Underlines carets excerpt source span.startCol span.endCol
        (numberWidth span.startLine - 2) := by
  rw [drawAlone_eq_answer] at h
  obtain ⟨blocks, htext, hblocks⟩ := rows_of_uncolored h
  obtain ⟨block, hmarked, rfl⟩ :
      ∃ block, (uncolored fs).Marked ⟨span, ""⟩ block ∧ blocks = [block] := by
    cases hblocks with
    | cons hmarked hrest =>
      cases hrest
      exact ⟨_, hmarked, rfl⟩
  obtain ⟨excerpt, carets, message, rfl, hunder⟩ := hmarked source hspan
  refine ⟨excerpt, carets,
    message ++ cause.notes.flatMap (fun note => Text.rows ((uncolored fs).noteRow note)), ?_, hunder⟩
  rw [htext]
  simp [Cause.diagnostic]

end Renderer

/-- In the line the group of the pattern captures the characters from `start` up to `stop`. -/
def DirectivePattern.Captured (p : DirectivePattern) (line : String) (start stop : Nat) : Prop :=
  ∃ m, p.pattern.search line = some m ∧ m.captures.lookup p.group = some (start, stop)

theorem DirectivePattern.Captured.columns {p : DirectivePattern} {line : String} {start stop : Nat}
    {dir : Directive} (h : p.Captured line start stop) (hdir : p.find line = some dir) :
    dir.startCol = start + 1 ∧ dir.endCol = stop := by
  obtain ⟨m, hm, hlookup⟩ := h
  rw [find, hm, Option.map_some, Option.some.injEq] at hdir
  subst hdir
  simp [hlookup]

namespace Renderer

/-- **Carets stand to the left of their span.** Without colours, and whatever is known of sources, a
drawn diagnostic shows for every label the carets that belong to it, in the row below the line, each
of them as many columns to the left of its character as the number of the line takes beyond two. That
is so also for an error that including reports of a source that has been read: its carets belong to
what the directive captures, and its diagnostic is drawn unless the line is too long to be counted. -/
theorem carets_displaced (fs : FileSystem) :
    (∀ (d : Diagnostic) (known known' : Excerpts) (text : String),
      Excerpts.Faithful fs.load known → ((uncolored fs).draw d).run.run known = (.ok text, known') →
      ∃ blocks, Text.rows text = Text.rows ((uncolored fs).header d) ++ blocks.flatten ++
          d.notes.flatMap (fun note => Text.rows ((uncolored fs).noteRow note)) ∧
        List.Forall₂ (uncolored fs).Marked d.labels blocks) ∧
    ∀ (p : DirectivePattern) (base : Option String) (source : String) (d : Document)
      (cause : Cause) (span : Span), Document.read fs.load base source = .ok d →
      d.including (.ofFiles fs) p.find = .error (.reported cause (some span)) →
      ∃ lines y x, fs.load span.file = .ok lines ∧ nth lines span.startLine = some y ∧
        (x = y ∨ x = Text.blank y) ∧ (p.find x).isSome ∧
        ∀ start stop : Nat, p.Captured x start stop → start < stop →
          (y.length ≤ LineRange.sizeLimit →
            ∃ text, (uncolored fs).drawAlone (cause.diagnostic (some span)) = .ok text) ∧
          ∀ text, (uncolored fs).drawAlone (cause.diagnostic (some span)) = .ok text →
            ∃ excerpt carets below,
              Text.rows text = Text.rows ((uncolored fs).header (cause.diagnostic (some span))) ++
                Text.rows ("  --> " ++ span.render) ++
                "     |".toList :: excerpt :: carets :: below ∧
              Underlines carets excerpt y (start + 1) stop (numberWidth span.startLine - 2) := by
  constructor
  · intro d known known' text hknown h
    obtain ⟨known'', hrun, -⟩ := (uncolored fs).answers_draw d known hknown
    exact rows_of_uncolored (congrArg Prod.fst (hrun.symm.trans h))
  · intro p base source d cause span hd h
    obtain ⟨lines, y, x, dir, hload, hnth, hxy, hdir, hspan⟩ := Document.captures_of_including hd h
    refine ⟨lines, y, x, hload, hnth, hxy, by rw [hdir]; rfl, ?_⟩
    intro start stop hcaptured hlt
    obtain ⟨hstart, hstop⟩ := hcaptured.columns hdir
    have hstartCol : span.startCol = start + 1 := by rw [hspan, ← hstart]; rfl
    have hendCol : span.endCol = stop := by rw [hspan, ← hstop]; rfl
    have hlength : (stop : Int) ≤ y.length := by
      have hcolumns := (p.columns_of_find hdir).2.2.2
      rw [hstop] at hcolumns
      rcases hxy with rfl | rfl
      · exact hcolumns
      · rwa [Text.length_blank] at hcolumns
    have hcovers : Covers fs.load span y := by
      refine ⟨⟨lines, hload, hnth⟩, ?_, by omega, by omega, by omega⟩
      rw [hspan]
      rfl
    constructor
    · intro hlimit
      exact exists_drawAlone (r := uncolored fs) hload cause (by omega) (by omega) (by omega)
    · intro text htext
      have hrows := rows_of_covers hcovers htext
      rwa [hstartCol, hendCol] at hrows

end Renderer

namespace Sample

/-- A file that names one that is not there. -/
def dangling : FileSystem where
  root := .directory [("main.txt", .file "a\n%(gone)\nb\n".toUTF8)]
  workingDirectory := []

/-- What recognises `%(…)`. -/
def included : DirectivePattern := ⟨(Pattern.compile? "%\\((?P<file>.*)\\)").get rfl, 1, rfl⟩

def gone : Cause := .unavailable "gone" (.blocked .missing "gone")

/-- Where `%(gone)` captures. -/
def goneSpan : Span := ⟨"main.txt", 2, 3, 2, 6⟩

def goneText : String := Text.joinLines [
  "error[L004]: cannot read source 'gone': [Errno 2] No such file or directory: 'gone'",
  "  --> main.txt:2:3",
  "     |",
  "     2 | %(gone)",
  "     |   ^^^^"]

theorem load_dangling : dangling.load "main.txt" = .ok ["a", "%(gone)", "b"] := by
  decide +kernel

theorem including_dangling : ∃ d, Document.read dangling.load none "main.txt" = .ok d ∧
    d.including (.ofFiles dangling) included.find = .error (.reported gone (some goneSpan)) := by
  have hread : (Document.read dangling.load none "main.txt").toOption.map
      (fun d => d.including (.ofFiles dangling) included.find) =
        some (.error (.reported gone (some goneSpan))) := by
    decide +kernel
  obtain ⟨d, hd, hincluding⟩ := Option.map_eq_some_iff.1 hread
  exact ⟨d, eq_ok_of_toOption hd, hincluding⟩

theorem drawAlone_gone :
    (Renderer.uncolored dangling).drawAlone (gone.diagnostic (some goneSpan)) = .ok goneText := by
  decide +kernel

end Sample

namespace Renderer

open Sample

/-- The carets for `gone` stand two columns to the left of it. -/
theorem carets_displaced_dangling : ∃ d,
    Document.read dangling.load none "main.txt" = .ok d ∧
      d.including (.ofFiles dangling) included.find = .error (.reported gone (some goneSpan)) ∧
      included.Captured "%(gone)" 2 6 ∧
      (uncolored dangling).drawAlone (gone.diagnostic (some goneSpan)) = .ok goneText ∧
      ∃ excerpt carets, excerpt ∈ Text.rows goneText ∧ carets ∈ Text.rows goneText ∧
        Underlines carets excerpt "%(gone)" 3 6 2 := by
  have hcaptured : included.Captured "%(gone)" 2 6 := ⟨_, rfl, rfl⟩
  obtain ⟨d, hread, hincluding⟩ := including_dangling
  obtain ⟨lines, y, x, hlines, hy, hxy, hx, hdrawn⟩ :=
    (carets_displaced dangling).2 _ _ _ _ _ _ hread hincluding
  obtain rfl := Except.ok.inj (load_dangling.symm.trans hlines)
  obtain rfl := Option.some.inj hy
  have hline : x = "%(gone)" := by
    rcases hxy with rfl | rfl
    · rfl
    · revert hx
      decide +kernel
  subst hline
  obtain ⟨excerpt, carets, below, hrows, hunder⟩ :=
    (hdrawn 2 6 hcaptured (by decide)).2 _ drawAlone_gone
  refine ⟨d, hread, hincluding, hcaptured, drawAlone_gone, excerpt, carets, ?_, ?_, hunder⟩
  · simp [hrows]
  · simp [hrows]

/-- They are not under it. -/
theorem carets_not_under_span : ∃ d,
    Document.read dangling.load none "main.txt" = .ok d ∧
      d.including (.ofFiles dangling) included.find = .error (.reported gone (some goneSpan)) ∧
      included.Captured "%(gone)" 2 6 ∧ Covers dangling.load goneSpan "%(gone)" ∧
      (uncolored dangling).drawAlone (gone.diagnostic (some goneSpan)) = .ok goneText ∧
      (Text.rows goneText).drop 3 = ["     2 | %(gone)".toList, "     |   ^^^^".toList] ∧
      ¬Underlines "     |   ^^^^".toList "     2 | %(gone)".toList "%(gone)" 3 6 0 := by
  have hspan : Covers dangling.load goneSpan "%(gone)" :=
    ⟨⟨_, load_dangling, rfl⟩, rfl, by decide, by decide, by decide⟩
  obtain ⟨d, hread, hincluding⟩ := including_dangling
  refine ⟨d, hread, hincluding, ⟨_, rfl, rfl⟩, hspan, drawAlone_gone, by decide +kernel, ?_⟩
  rintro ⟨head, hexcerpt, hcarets⟩
  have hlength := congrArg List.length hexcerpt
  rw [List.length_append] at hlength
  have hhead : head.length = 9 := Nat.add_right_cancel hlength.symm
  obtain ⟨k, hfirst, -, hk⟩ := (hcarets 9).1 rfl
  omega

end Renderer

end Patchwork
