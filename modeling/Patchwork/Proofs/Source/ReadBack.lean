import Patchwork.Proofs.Document.Provenance
import Patchwork.Proofs.Text.Lines
import Patchwork.Source.Files

/-!
# Printed documents as sources

A document read from files can be printed into a file and read again. Files are cut into lines when
they are read, so no line of theirs holds a character at which a text is cut, and neither does a
blank; macros add no other lines, whatever their patterns match (`oneLine_of_runs`). The text of the
document, with a line feed at its end, therefore has the lines of the document again
(`load_printed`), whatever the sources end their lines with.
-/

namespace Patchwork

namespace FileSystem

variable {fs : FileSystem} {path : String}

/-- A file that holds the bytes of a text has the lines of the text. -/
theorem load_of_read_toUTF8 {text : String} (h : fs.read path = .ok text.toUTF8) :
    fs.load path = .ok (Text.lines text) := by
  simp only [load, h, Text.decode_toUTF8]

theorem oneLine_of_load {lines : List String} (h : fs.load path = .ok lines) :
    ∀ x ∈ lines, Text.OneLine x := by
  unfold load at h
  split at h
  · cases h
  · cases h
  · split at h
    · cases h
      intro x hx
      exact Text.oneLine_of_mem_lines hx
    · cases h

end FileSystem

section Printed

variable {fs : FileSystem} {base : Option String} {source : String} {d : Document}

/-- After macros on files, every line is a single line. -/
theorem oneLine_of_runs {ops : List Operation} (h : Runs fs.load base source ops d)
    (hpass : ∀ op ∈ ops, op.isPass = true) : ∀ x ∈ d.lines, Text.OneLine x :=
  h.forall_mem_lines hpass FileSystem.oneLine_of_load Text.oneLine_blank

/-- **A printed document reads back as itself.** Whatever macros have been at work on a document from
files, a file with its text and a line feed has just its lines. -/
theorem load_printed {invocations : List Invocation}
    (h : Document.readAndInvoke (.ofFiles fs) base source invocations = .ok d)
    {fs' : FileSystem} {path : String}
    (hread : fs'.read path = .ok (Text.joinLines d.lines ++ "\n").toUTF8) :
    fs'.load path = .ok d.lines := by
  obtain ⟨ops, hpass, hruns⟩ := exists_runs_of_readAndInvoke h
  have hne : d.lines ≠ [] := hruns.exists_trails.1.lines_ne_nil
  have hone : ∀ x ∈ d.lines, Text.OneLine x := oneLine_of_runs hruns hpass
  rw [FileSystem.load_of_read_toUTF8 hread, Text.lines_joinLines hne hone]

end Printed

namespace Sample

/-- Two files whose lines end in several ways, or not at all. -/
def files : FileSystem where
  root := .directory [("main.txt", .file "a\r\n\n%(part.txt)\u2028b\x0b\n".toUTF8),
    ("part.txt", .file "c\rd\x1c\n\u0085e".toUTF8)]
  workingDirectory := []

/-- Includes what `%(…)` names and blanks the lines that begin with `a`. -/
def invocations : List Invocation :=
  [.unchecked "include" (.table [("pattern", .text "%\\((?P<file>.*)\\)")]),
    .unchecked "line_comment" (.table [("pattern", .text "^a")])]

/-- A file with the given lines. -/
def printed (ls : List String) : FileSystem where
  root := .directory [("out.txt", .file (Text.joinLines ls ++ "\n").toUTF8)]
  workingDirectory := []

end Sample

/-- Empty lines come back, the last one too, although no two lines were ended alike. -/
theorem load_printed_terminators : ∃ d,
    Document.readAndInvoke (.ofFiles Sample.files) none "main.txt" Sample.invocations = .ok d ∧
      d.lines = [" ", "", "c", "d", "", "", "e", "           ", "b", ""] ∧
      (Sample.printed d.lines).read "out.txt" = .ok (Text.joinLines d.lines ++ "\n").toUTF8 ∧
      (Sample.printed d.lines).load "out.txt" = .ok d.lines := by
  have hlines : (Document.readAndInvoke (.ofFiles Sample.files) none "main.txt"
      Sample.invocations).toOption.map (·.lines) =
        some [" ", "", "c", "d", "", "", "e", "           ", "b", ""] := by
    decide +kernel
  obtain ⟨d, hd, hlines⟩ := Option.map_eq_some_iff.1 hlines
  have hd := eq_ok_of_toOption hd
  have hread : (Sample.printed d.lines).read "out.txt" =
      .ok (Text.joinLines d.lines ++ "\n").toUTF8 := rfl
  exact ⟨d, hd, hlines, hread, load_printed hd hread⟩

end Patchwork
