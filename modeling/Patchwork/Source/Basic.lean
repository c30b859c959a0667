import Patchwork.Section.Basic

/-!
# Sources

A source is named by a path and gives lines. Where the lines come from is left to a `Loader`. A
`Sources` is a loader together with the finitely many texts that it can give for any path, which is
what keeps inclusion from going on for ever.
-/

namespace Patchwork

/-- The lines of the source at a path, or why there are none. -/
abbrev Loader := String → Except Error (List String)

def Section.load (load : Loader) (path : String) : Except Error Section := do
  Section.ofSource path (← load path)

/-- A loader, and a list that holds every text it gives. -/
structure Sources where
  load : Loader
  texts : List (List String)
  mem_texts : ∀ {path : String} {ls : List String}, load path = .ok ls → ls ∈ texts

/-- What is kept in memory under a path: lines, or a mark that they are not to be given out. -/
inductive StoredSource where
  | text (lines : List String)
  | refusal (span : Option Span)

namespace Sources

/-- Looks a path up by its exact spelling. -/
def loadStored (stored : List (String × StoredSource)) (path : String) :
    Except Error (List String) :=
  match stored.lookup path with
  | some (.text lines) => .ok lines
  | some (.refusal span) => .error (.reported (.unavailable path .refused) span)
  | none => failFor (.unavailable path .unlisted)

def linesOfStored : StoredSource → Option (List String)
  | .text lines => some lines
  | .refusal _ => none

/-- What a look-up finds is one of the values. -/
theorem mem_of_lookup_eq_some {α : Type} {path : String} {a : α} {entries : List (String × α)}
    (h : entries.lookup path = some a) : a ∈ entries.map (·.2) := by
  obtain ⟨before, after, rfl, _⟩ := List.lookup_eq_some_iff.1 h
  simp

/-- Sources kept in memory. -/
def ofStored (stored : List (String × StoredSource)) : Sources where
  load := loadStored stored
  texts := (stored.map (·.2)).filterMap linesOfStored
  mem_texts := by
    intro path ls h
    unfold loadStored at h
    split at h
    · next lines hl =>
      cases h
      exact List.mem_filterMap.2 ⟨_, mem_of_lookup_eq_some hl, rfl⟩
    · cases h
    · cases h

end Sources

end Patchwork
