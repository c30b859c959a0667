import Patchwork.Source.Basic
import Patchwork.Text.Lines

/-!
# Sources in files

The lines of a file are those of its bytes read as UTF-8. A file system has finitely many files, so
it is a `Sources` (`Sources.ofFiles`): whatever a path leads to is the content of one of its files
(`FileTree.follow_contents`).
-/

namespace Patchwork

namespace FileTree

theorem contents_subset_of_lookup {name : String} {tree : FileTree}
    {entries : List (String × FileTree)} (h : entries.lookup name = some tree) :
    tree.contents ⊆ contentsOfEntries entries := by
  obtain ⟨before, after, rfl, hb⟩ := List.lookup_eq_some_iff.1 h
  clear h hb
  intro c hc
  induction before with
  | nil => simp [contentsOfEntries, hc]
  | cons e rest ih => simp [contentsOfEntries, ih]

/-- What names lead to holds only files of the tree they start in. -/
theorem follow_contents {all : List ByteArray} {names : List String} :
    ∀ {here : FileTree} {above : List FileTree} {tree : FileTree},
      here.contents ⊆ all → (∀ t ∈ above, t.contents ⊆ all) →
      here.follow above names = .ok tree → tree.contents ⊆ all := by
  induction names with
  | nil =>
    intro here above tree hh _ h
    cases h
    exact hh
  | cons name rest ih =>
    intro here above tree hh ha h
    unfold follow at h
    split at h
    · cases h
    · next entries =>
      split at h
      · exact ih hh ha h
      · split at h
        · split at h
          · exact ih hh ha h
          · exact ih (ha _ (by simp)) (fun t ht => ha t (by simp [ht])) h
        · split at h
          · cases h
          · split at h
            · cases h
            · next entry he =>
              refine ih (fun c hc => hh ?_) (fun t ht => ?_) h
              · exact contents_subset_of_lookup he hc
              · rcases List.mem_cons.1 ht with rfl | ht
                · exact hh
                · exact ha t ht

end FileTree

namespace FileSystem

/-- The bytes read at a path are the content of a file. -/
theorem mem_contents_of_read {fs : FileSystem} {path : String} {content : ByteArray}
    (h : fs.read path = .ok content) : content ∈ fs.root.contents := by
  simp only [read] at h
  split at h
  · cases h
  · split at h
    · next found =>
      cases h
      unfold find at found
      split at found
      · cases found
      · split at found
        · cases found
        · exact FileTree.follow_contents (List.Subset.refl _) (by simp) found
            (by simp [FileTree.contents])
    · cases h
    · cases h

def load (fs : FileSystem) : Loader := fun path =>
  match fs.read path with
  | .error .nullInPath => .error (.fault (.access .nullInPath))
  | .error (.blocked obstacle opened) => failFor (.unavailable path (.blocked obstacle opened))
  | .ok content =>
    match Text.decode content with
    | .ok text => .ok (Text.lines text)
    | .error sequence => failFor (.unavailable path (.malformed sequence))

/-- The lines of bytes, if they are UTF-8. -/
def linesOf (content : ByteArray) : Option (List String) :=
  match Text.decode content with
  | .ok text => some (Text.lines text)
  | .error _ => none

end FileSystem

def Sources.ofFiles (fs : FileSystem) : Sources where
  load := fs.load
  texts := fs.root.contents.filterMap FileSystem.linesOf
  mem_texts := by
    intro path ls h
    unfold FileSystem.load at h
    split at h
    · cases h
    · cases h
    · next content hr =>
      refine List.mem_filterMap.2 ⟨content, FileSystem.mem_contents_of_read hr, ?_⟩
      unfold FileSystem.linesOf
      split at h
      · cases h
        rfl
      · cases h

end Patchwork
