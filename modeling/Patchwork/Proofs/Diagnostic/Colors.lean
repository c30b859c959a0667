import Mathlib.Data.List.Forall2
import Patchwork.Proofs.Channel
import Patchwork.Proofs.Diagnostic.Excerpts
import Patchwork.Proofs.Text.Align
import Patchwork.Proofs.Text.Ansi
import Patchwork.Source.Files

/-!
# Colours

Colours are escape sequences put around pieces of rows. The texts of a diagnostic, which may hold
sequences of their own and unfinished ones, stand right before them and right after them. Still, once
all sequences have been taken out, it cannot be told whether there were colours
(`Renderer.strip_drawAlone`): where a piece in colours ends, the row goes on with a character that
continues no sequence, or it ends.

This is shown piece by piece, of two renderers that look at the same sources, with colours or without
(`Renderer.alike_answer`).
-/

namespace Patchwork

open Ansi (Clean Interrupts strip)

/-! ## Two operations side by side -/

/-- Both operations fail with the same error, or they give values that are related. -/
inductive Alike {α β : Type} (R : α → β → Prop) : Except Error α → Except Error β → Prop
  | ok {a : α} {b : β} (h : R a b) : Alike R (.ok a) (.ok b)
  | error (e : Error) : Alike R (.error e) (.error e)

namespace Alike

variable {α β γ δ : Type} {R : α → β → Prop} {S : γ → δ → Prop} {x : Except Error α}
  {y : Except Error β}

theorem refl (x : Except Error α) : Alike (fun a b => a = b ∧ x = .ok a) x x := by
  cases x with
  | ok a => exact .ok ⟨rfl, rfl⟩
  | error e => exact .error e

theorem bind {f : α → Except Error γ} {g : β → Except Error δ} (h : Alike R x y)
    (hfg : ∀ a b, R a b → Alike S (f a) (g b)) : Alike S (x >>= f) (y >>= g) := by
  cases h with
  | ok h => exact hfg _ _ h
  | error e => exact .error e

theorem mapM {f : γ → Except Error α} {g : γ → Except Error β} {l : List γ}
    (h : ∀ c ∈ l, Alike R (f c) (g c)) : Alike (List.Forall₂ R) (l.mapM f) (l.mapM g) := by
  induction l with
  | nil => exact .ok .nil
  | cons c l ih =>
    obtain ⟨hc, hl⟩ := List.forall_mem_cons.1 h
    rw [List.mapM_cons, List.mapM_cons]
    apply hc.bind
    intro a b hab
    apply (ih hl).bind
    intro as bs habs
    exact .ok (.cons hab habs)

theorem map_eq {f : α → γ} {g : β → γ} (h : Alike (fun a b => f a = g b) x y) :
    x.map f = y.map g := by
  cases h with
  | ok h => exact congrArg Except.ok h
  | error e => rfl

end Alike

theorem Severity.isParameter_of_mem_attributes (severity : Severity) :
    ∀ c ∈ severity.attributes.toList, Ansi.isParameter c = true := by
  apply List.all_eq_true.1
  cases severity <;> decide

namespace Renderer

/-! ## Pieces of rows -/

section Pieces

variable (r : Renderer)

theorem framed_of_color {r : Renderer} (hcolor : r.color = false) (mark text : String) :
    r.framed mark text = "  " ++ mark ++ text := by
  simp [framed, painted, plain, paint, hcolor]

theorem repeated_eq_ok {c : Char} {n : Int} {text : String} (h : repeated c n = .ok text) :
    text.toList = List.replicate n.toNat c := by
  unfold repeated at h
  split at h
  · cases h
    exact String.toList_ofList
  · cases h

theorem clean_repeated {c : Char} {n : Int} {text : String} (hc : c ≠ Ansi.esc)
    (h : repeated c n = .ok text) : Clean text := by
  intro hesc
  rw [repeated_eq_ok h] at hesc
  exact hc (List.eq_of_mem_replicate hesc).symm

theorem strip_paint_append {attributes : String}
    (h : ∀ c ∈ attributes.toList, Ansi.isParameter c = true) (after : String) :
    strip (r.paint attributes ++ after) = strip after := by
  unfold paint
  split
  · exact Ansi.strip_attributes_append h after
  · rw [String.empty_append]

theorem interrupts_paint (attributes : String) : Interrupts (r.paint attributes).toList := by
  unfold paint
  split
  · exact Ansi.interrupts_attributes attributes
  · exact Ansi.interrupts_nil

theorem interrupts_painted (attributes : String) {text : String} (h : Interrupts text.toList) :
    Interrupts (r.painted attributes text).toList := by
  rw [painted, String.toList_append, String.toList_append]
  exact ((r.interrupts_paint attributes).append h).append (r.interrupts_paint "0")

/-- Painted or not, a piece is stripped for itself, and so is what comes after it. -/
theorem strip_painted_append {attributes : String}
    (h : ∀ c ∈ attributes.toList, Ansi.isParameter c = true) (text : String) {after : String}
    (hafter : Interrupts after.toList) :
    strip (r.painted attributes text ++ after) = strip text ++ strip after := by
  have hplain : Interrupts (r.plain ++ after).toList := by
    rw [String.toList_append]
    exact (r.interrupts_paint "0").append hafter
  have hzero : ∀ c ∈ "0".toList, Ansi.isParameter c = true :=
    List.all_eq_true.1 (by decide)
  have hreset : strip (r.plain ++ after) = strip after := r.strip_paint_append hzero after
  rw [painted, String.append_assoc, String.append_assoc, r.strip_paint_append h,
    Ansi.strip_append hplain, hreset]

theorem strip_painted {attributes : String}
    (h : ∀ c ∈ attributes.toList, Ansi.isParameter c = true) (text : String) :
    strip (r.painted attributes text) = strip text := by
  have hend : Interrupts "".toList := Ansi.interrupts_nil
  simpa [Ansi.strip_empty] using r.strip_painted_append h text hend

theorem strip_framed (mark : String) {text : String} (h : Interrupts text.toList) :
    strip (r.framed mark text) = "  " ++ (strip mark ++ strip text) := by
  have hspaces : Clean "  " := by decide
  have hframe : ∀ c ∈ frame.toList, Ansi.isParameter c = true :=
    List.all_eq_true.1 (by decide)
  rw [framed, String.append_assoc, Ansi.strip_append_of_clean hspaces,
    r.strip_painted_append hframe mark h]

end Pieces

/-! ## Rows -/

/-- The rows of a label, with those of its excerpt among them. -/
def aroundExcerpt (r : Renderer) (severity : Severity) (label : Label) (excerpt : List String) :
    List String :=
  r.framed "-->" (" " ++ label.span.render) :: r.framed "   |" "" :: (excerpt ++
    if label.message = "" then [] else [r.messageRow severity label.message])

theorem labelRows_eq (r : Renderer) (severity : Severity) (label : Label) (source : Option String) :
    r.labelRows severity label source =
      source.elim (.ok []) (r.excerptRows severity label.span) >>= fun excerpt =>
        .ok (r.aroundExcerpt severity label excerpt) := by
  cases source <;> rfl

section Rows

variable (r r' : Renderer)

theorem strip_header (d : Diagnostic) : strip (r.header d) =
    strip s!"{d.severity.word}[{d.code}]" ++ strip s!": {d.message}" := by
  have hbold : ∀ c ∈ "1".toList, Ansi.isParameter c = true :=
    List.all_eq_true.1 (by decide)
  have hcolon : Interrupts ": ".toList := by decide
  have hmessage : Interrupts (r.painted "1" s!": {d.message}").toList :=
    r.interrupts_painted "1" (hcolon.append_text (by decide) d.message)
  rw [header, r.strip_painted_append d.severity.isParameter_of_mem_attributes _ hmessage,
    r.strip_painted hbold]

theorem interrupts_space (text : String) : Interrupts (" " ++ text).toList := by
  have hspace : Interrupts " ".toList := by decide
  exact hspace.append_text (by decide) text

/-- Rows of the frame are the same but for colours if what stands in them is. -/
theorem strip_framed_eq (mark : String) {text text' : String} (h : Interrupts text.toList)
    (h' : Interrupts text'.toList) (heq : strip text = strip text') :
    strip (r.framed mark text) = strip (r'.framed mark text') := by
  rw [r.strip_framed mark h, r'.strip_framed mark h', heq]

theorem strip_framed_space (mark text : String) :
    strip (r.framed mark (" " ++ text)) = strip (r'.framed mark (" " ++ text)) :=
  r.strip_framed_eq r' mark (interrupts_space text) (interrupts_space text) rfl

theorem strip_noteRow (note : String) : strip (r.noteRow note) = strip (r'.noteRow note) := by
  have htext : s!" note: {note}" = " " ++ ("note: " ++ note) := by
    rw [← String.append_assoc]
    rfl
  rw [noteRow, noteRow, htext]
  exact r.strip_framed_space r' "=" _

/-- After spaces, painted text is stripped as it is without paint. -/
theorem strip_spaces_painted {spaces : String} (hspaces : Clean spaces) (severity : Severity)
    (text : String) :
    strip (spaces ++ r.painted severity.attributes text) = spaces ++ strip text := by
  rw [Ansi.strip_append_of_clean hspaces, r.strip_painted severity.isParameter_of_mem_attributes]

theorem strip_messageRow (severity : Severity) (message : String) :
    strip (r.messageRow severity message) = strip (r'.messageRow severity message) := by
  have hspaces : Interrupts "   ".toList := by decide
  have hclean : Clean "   " := by decide
  apply r.strip_framed_eq r'
  · exact hspaces.append_text (by decide) _
  · exact hspaces.append_text (by decide) _
  · rw [r.strip_spaces_painted hclean, r'.strip_spaces_painted hclean]

theorem alike_caretRow (severity : Severity) (span : Span) :
    Alike (fun row row' => strip row = strip row') (r.caretRow severity span)
      (r'.caretRow severity span) := by
  apply (Alike.refl _).bind
  rintro padding _ ⟨rfl, hpadding⟩
  apply (Alike.refl _).bind
  rintro carets _ ⟨rfl, -⟩
  have hclean : Clean (" " ++ padding) :=
    Ansi.clean_append.2 ⟨by decide, clean_repeated (by decide) hpadding⟩
  have hinterrupts : ∀ text, Interrupts (" " ++ padding ++ text).toList := by
    intro text
    rw [String.append_assoc]
    exact interrupts_space _
  apply Alike.ok
  apply r.strip_framed_eq r' "   |" (hinterrupts _) (hinterrupts _)
  rw [r.strip_spaces_painted hclean, r'.strip_spaces_painted hclean]

/-- The rows are the same but for colours. -/
def SameRows (rows rows' : List String) : Prop := rows.map strip = rows'.map strip

theorem alike_excerptRows (severity : Severity) (span : Span) (source : String) :
    Alike SameRows (r.excerptRows severity span source) (r'.excerptRows severity span source) := by
  have hsource : strip (r.sourceRow span source) = strip (r'.sourceRow span source) :=
    r.strip_framed_space r' _ source
  unfold excerptRows
  split
  · apply (r.alike_caretRow r' severity span).bind
    intro row row' hrow
    exact .ok (by simp [SameRows, hsource, hrow])
  · exact .ok (by simp [SameRows, hsource])

theorem sameRows_aroundExcerpt (severity : Severity) (label : Label) {rows rows' : List String}
    (h : SameRows rows rows') :
    SameRows (r.aroundExcerpt severity label rows) (r'.aroundExcerpt severity label rows') := by
  have hplace := r.strip_framed_space r' "-->" label.span.render
  have hend : Interrupts "".toList := Ansi.interrupts_nil
  have hgap := r.strip_framed_eq r' "   |" hend hend rfl
  have hmessage := r.strip_messageRow r' severity label.message
  unfold SameRows aroundExcerpt at *
  split <;> simp [hplace, hgap, hmessage, h]

theorem alike_labelRows (severity : Severity) (label : Label) (source : Option String) :
    Alike SameRows (r.labelRows severity label source) (r'.labelRows severity label source) := by
  have hexcerpt : Alike SameRows (source.elim (.ok []) (r.excerptRows severity label.span))
      (source.elim (.ok []) (r'.excerptRows severity label.span)) := by
    cases source with
    | none => exact .ok rfl
    | some s => exact r.alike_excerptRows r' severity label.span s
  rw [labelRows_eq, labelRows_eq]
  apply hexcerpt.bind
  intro rows rows' h
  exact .ok (r.sameRows_aroundExcerpt r' severity label h)

end Rows

/-! ## Whole diagnostics -/

section Answers

variable {r r' : Renderer} (hload : r.load = r'.load)

include hload

theorem alike_rowsOf (severity : Severity) (label : Label) :
    Alike SameRows (r.rowsOf severity label) (r'.rowsOf severity label) := by
  have hsource : r.sourceOf label.span = r'.sourceOf label.span := by
    rw [sourceOf, sourceOf, hload]
  unfold rowsOf
  rw [hsource]
  apply (Alike.refl _).bind
  rintro source _ ⟨rfl, -⟩
  exact r.alike_labelRows r' severity label source

/-- Colours make no difference to whether there is a text, and but for sequences none to the text. -/
theorem alike_answer (d : Diagnostic) :
    Alike (fun text text' => strip text = strip text') (r.answer d) (r'.answer d) := by
  apply (Alike.mapM fun label _ => alike_rowsOf hload d.severity label).bind
  intro blocks blocks' hblocks
  have hrows : (blocks.flatten).map strip = (blocks'.flatten).map strip := by
    induction hblocks with
    | nil => rfl
    | cons hblock _ ih => rw [List.flatten_cons, List.map_append, hblock, ih]; simp
  apply Alike.ok
  rw [Ansi.strip_joinLines, Ansi.strip_joinLines]
  simp [hrows, r.strip_header, r'.strip_header, r.strip_noteRow r', Function.comp_def]

end Answers

/-! ## Without colours -/

/-- No text of the diagnostic holds an escape character, and no line of a source that it shows. -/
structure Unescaped (load : Loader) (d : Diagnostic) : Prop where
  code : Clean d.code
  message : Clean d.message
  notes : ∀ note ∈ d.notes, Clean note
  labels : ∀ label ∈ d.labels, Clean label.span.file ∧ Clean label.message
  sources : ∀ label ∈ d.labels, ∀ lines source, load label.span.file = .ok lines →
    nth lines label.span.startLine = some source → Clean source

theorem clean_render {span : Span} (h : Clean span.file) : Clean span.render := by
  have hcolon : Clean ":" := by decide
  have hline := Ansi.clean_toString span.startLine
  have hcolumn := Ansi.clean_toString span.startCol
  change Clean (span.file ++ ":" ++ toString span.startLine ++ ":" ++ toString span.startCol)
  simp only [Ansi.clean_append]
  exact ⟨⟨⟨⟨h, hcolon⟩, hline⟩, hcolon⟩, hcolumn⟩

theorem load_of_lookAt {load : Loader} {path : String} {lines : List String}
    (h : lookAt load path = .ok (some lines)) : load path = .ok lines := by
  unfold lookAt at h
  split at h
  · next hload =>
    cases h
    exact hload
  · split at h <;> cases h
  · cases h

section Uncolored

variable {r : Renderer} (hcolor : r.color = false)

include hcolor

theorem painted_of_color (attributes text : String) : r.painted attributes text = text := by
  simp [painted, plain, paint, hcolor]

theorem clean_framed {mark text : String} (hmark : Clean mark) (htext : Clean text) :
    Clean (r.framed mark text) := by
  have hspaces : Clean "  " := by decide
  rw [framed_of_color hcolor]
  simp [hspaces, hmark, htext]

theorem clean_header {d : Diagnostic} (hcode : Clean d.code) (hmessage : Clean d.message) :
    Clean (r.header d) := by
  have hword : Clean d.severity.word := by cases d.severity <;> decide
  have hmarks : Clean "[" ∧ Clean "]" ∧ Clean ": " := by decide
  rw [header, painted_of_color hcolor, painted_of_color hcolor]
  simp [toString, hword, hmarks, hcode, hmessage]

theorem clean_sourceRow (span : Span) {source : String} (h : Clean source) :
    Clean (r.sourceRow span source) := by
  have hmarks : Clean " |" ∧ Clean " " := by decide
  have hnumber := Ansi.clean_alignRight 4 (Ansi.clean_toString span.startLine)
  apply clean_framed hcolor
  · exact Ansi.clean_append.2 ⟨hnumber, hmarks.1⟩
  · exact Ansi.clean_append.2 ⟨hmarks.2, h⟩

theorem clean_caretRow {severity : Severity} {span : Span} {row : String}
    (h : r.caretRow severity span = .ok row) : Clean row := by
  obtain ⟨padding, hpadding, h⟩ := bind_eq_ok.1 h
  obtain ⟨carets, hcarets, h⟩ := bind_eq_ok.1 h
  obtain rfl := Except.ok.inj h
  have hmarks : Clean "   |" ∧ Clean " " := by decide
  have hpadding : Clean padding := clean_repeated (by decide) hpadding
  have hcarets : Clean carets := clean_repeated (by decide) hcarets
  apply clean_framed hcolor hmarks.1
  rw [painted_of_color hcolor]
  simp [hmarks, hpadding, hcarets]

theorem clean_excerptRows {severity : Severity} {span : Span} {source : String} {rows : List String}
    (hsource : Clean source) (h : r.excerptRows severity span source = .ok rows) :
    ∀ row ∈ rows, Clean row := by
  have hfirst := clean_sourceRow hcolor span hsource
  unfold excerptRows at h
  split at h
  · obtain ⟨carets, hcarets, h⟩ := bind_eq_ok.1 h
    obtain rfl := Except.ok.inj h
    simp [hfirst, clean_caretRow hcolor hcarets]
  · obtain rfl := Except.ok.inj h
    simpa using hfirst

theorem clean_aroundExcerpt {severity : Severity} {label : Label} {excerpt : List String}
    (hfile : Clean label.span.file) (hmessage : Clean label.message)
    (hexcerpt : ∀ row ∈ excerpt, Clean row) :
    ∀ row ∈ r.aroundExcerpt severity label excerpt, Clean row := by
  have hmarks : Clean "-->" ∧ Clean "   |" ∧ Clean " " ∧ Clean "   " ∧ Clean "" := by decide
  have hrender : Clean (" " ++ label.span.render) :=
    Ansi.clean_append.2 ⟨hmarks.2.2.1, clean_render hfile⟩
  have hplace : Clean (r.framed "-->" (" " ++ label.span.render)) :=
    clean_framed hcolor hmarks.1 hrender
  have hgap : Clean (r.framed "   |" "") := clean_framed hcolor hmarks.2.1 hmarks.2.2.2.2
  have hsaid : Clean (r.messageRow severity label.message) := by
    apply clean_framed hcolor hmarks.2.1
    rw [painted_of_color hcolor]
    simp [hmarks, hmessage]
  refine List.forall_mem_cons.2 ⟨hplace, List.forall_mem_cons.2 ⟨hgap, ?_⟩⟩
  refine List.forall_mem_append.2 ⟨hexcerpt, ?_⟩
  split
  · simp
  · simpa using hsaid

theorem clean_rowsOf {d : Diagnostic} (hd : Unescaped r.load d) {label : Label}
    (hlabel : label ∈ d.labels) {rows : List String} (h : r.rowsOf d.severity label = .ok rows) :
    ∀ row ∈ rows, Clean row := by
  obtain ⟨source, hsource, h⟩ := bind_eq_ok.1 h
  rw [labelRows_eq] at h
  obtain ⟨excerpt, hexcerpt, h⟩ := bind_eq_ok.1 h
  obtain rfl := Except.ok.inj h
  obtain ⟨hfile, hmessage⟩ := hd.labels label hlabel
  apply clean_aroundExcerpt hcolor hfile hmessage
  cases source with
  | none =>
    obtain rfl := Except.ok.inj hexcerpt
    simp
  | some s =>
    obtain ⟨found, hfound, hnth⟩ := bind_eq_ok.1 hsource
    cases found with
    | none => cases hnth
    | some lines =>
      have hload : r.load label.span.file = .ok lines := load_of_lookAt hfound
      have hs : Clean s := hd.sources label hlabel lines s hload (Except.ok.inj hnth)
      exact clean_excerptRows hcolor hs hexcerpt

theorem clean_answer {d : Diagnostic} (hd : Unescaped r.load d) {text : String}
    (h : r.answer d = .ok text) : Clean text := by
  obtain ⟨blocks, hblocks, h⟩ := bind_eq_ok.1 h
  obtain rfl := Except.ok.inj h
  have hlabels : Yields (fun _ => True) (fun blocks => ∀ rows ∈ blocks, ∀ row ∈ rows, Clean row)
      (d.labels.mapM (r.rowsOf d.severity)) := by
    apply Yields.mapM
    intro label hlabel
    cases hrows : r.rowsOf d.severity label with
    | error e => trivial
    | ok rows => exact clean_rowsOf hcolor hd hlabel hrows
  rw [hblocks] at hlabels
  have hmarks : Clean "=" ∧ Clean " note: " := by decide
  have hnotes : ∀ row ∈ d.notes.map r.noteRow, Clean row := by
    refine List.forall_mem_map.2 fun note hnote => ?_
    apply clean_framed hcolor hmarks.1
    exact Ansi.clean_append.2 ⟨hmarks.2, hd.notes note hnote⟩
  apply Ansi.clean_joinLines
  refine List.forall_mem_cons.2 ⟨clean_header hcolor hd.code hd.message, ?_⟩
  refine List.forall_mem_append.2 ⟨fun row hrow => ?_, hnotes⟩
  obtain ⟨rows, hrows, hrow⟩ := List.mem_flatten.1 hrow
  exact hlabels rows hrows row hrow

end Uncolored

/-- **Colours are nothing but escape sequences.** With colours a diagnostic is drawn or not just as
without, and once the sequences have been taken out of both texts, they are the same, whatever
sequences its own texts and the sources hold. If there are none in these, taking them out of the text
in colours gives the text without colours. -/
theorem strip_drawAlone (fs : FileSystem) (d : Diagnostic) :
    (drawAlone ⟨fs.load, true⟩ d).map strip = (drawAlone ⟨fs.load, false⟩ d).map strip ∧
      (Unescaped fs.load d →
        (drawAlone ⟨fs.load, true⟩ d).map strip = drawAlone ⟨fs.load, false⟩ d) := by
  have hload : (⟨fs.load, true⟩ : Renderer).load = (⟨fs.load, false⟩ : Renderer).load := rfl
  have hsame : (drawAlone ⟨fs.load, true⟩ d).map strip = (drawAlone ⟨fs.load, false⟩ d).map strip := by
    rw [drawAlone_eq_answer, drawAlone_eq_answer]
    exact (alike_answer hload d).map_eq
  refine ⟨hsame, fun hd => ?_⟩
  rw [hsame, drawAlone_eq_answer]
  cases h : answer ⟨fs.load, false⟩ d with
  | error e => rfl
  | ok text =>
    have htext : Clean text := clean_answer rfl hd h
    exact congrArg Except.ok (Ansi.strip_of_clean htext)

end Renderer

namespace Sample

def shelf : FileSystem := ⟨.directory [("a.txt", .file "x = 1\n".toUTF8)], []⟩

def remark : Diagnostic where
  severity := .warning
  code := "W1"
  message := "unused"
  labels := [⟨⟨"a.txt", 1, 1, 1, 1⟩, "here"⟩]
  notes := ["see b.txt"]

def remarkText : String := Text.joinLines [
  "warning[W1]: unused",
  "  --> a.txt:1:1",
  "     |",
  "     1 | x = 1",
  "     | ^",
  "     |   here",
  "  = note: see b.txt"]

theorem load_shelf : shelf.load "a.txt" = .ok ["x = 1"] := by
  decide +kernel

end Sample

namespace Renderer

open Sample

/-- A remark in colours reads as one without, once its sequences have been taken out. -/
theorem strip_drawAlone_remark : Unescaped shelf.load remark ∧
    (drawAlone ⟨shelf.load, true⟩ remark).map strip = .ok remarkText := by
  have hplain : drawAlone ⟨shelf.load, false⟩ remark = .ok remarkText := by
    decide +kernel
  have hremark : Unescaped shelf.load remark := by
    constructor
    case code => decide
    case message => decide
    case notes => decide
    case labels => decide
    case sources =>
      intro label hlabel lines source hload hsource
      obtain rfl := List.mem_singleton.1 hlabel
      obtain rfl := Except.ok.inj (load_shelf.symm.trans hload)
      obtain rfl := Option.some.inj hsource
      decide
  refine ⟨hremark, ?_⟩
  rw [← hplain]
  exact (strip_drawAlone shelf remark).2 hremark

end Renderer

end Patchwork
