import Patchwork.Source.Files

/-!
# Null characters in paths

No file has a path with a null character, and to ask for one is a fault, where all other reasons why
a source has no lines are reported. Bringing paths to normal form, joining them and resolving them
neither adds a null character nor loses one (`Path.NullFree`), so it always comes from what the path
was put together from.
-/

namespace Patchwork

open FileSystem (hasNull)

theorem hasNull_eq_false_iff {s : String} : hasNull s = false ↔ '\x00' ∉ s.toList := by
  simp [hasNull]

theorem mem_intercalate_singleton {α : Type} {a b : α} (hne : a ≠ b) {ls : List (List α)} :
    a ∈ [b].intercalate ls ↔ ∃ l ∈ ls, a ∈ l := by
  induction ls with
  | nil => simp
  | cons l ls ih =>
    cases ls with
    | nil => simp
    | cons l' ls =>
      rw [List.intercalate_cons_cons, List.mem_append, List.mem_append, ih]
      simp [hne]

namespace Path

/-- No name holds a null character. -/
def NullFree (p : Path) : Prop := ∀ name ∈ p.names, hasNull name = false

theorem nullFree_ofString {s : String} : (ofString s).NullFree ↔ hasNull s = false := by
  have hpieces : '\x00' ∈ s.toList ↔ ∃ l ∈ s.toList.splitOn '/', '\x00' ∈ l := by
    rw [← mem_intercalate_singleton (by decide : '\x00' ≠ '/'), List.intercalate_splitOn]
  rw [hasNull_eq_false_iff, hpieces, NullFree, ofString, pieces]
  constructor
  · rintro h ⟨l, hl, hnull⟩
    have hkept : ∀ t : String, hasNull t = false → String.ofList l ≠ t := by
      rintro t ht rfl
      rw [hasNull_eq_false_iff, String.toList_ofList] at ht
      exact ht hnull
    refine hkept _ (h (String.ofList l) (List.mem_filter.2 ⟨List.mem_map_of_mem hl, ?_⟩)) rfl
    exact decide_eq_true ⟨hkept "" (by decide), hkept "." (by decide)⟩
  · intro h name hname
    obtain ⟨l, hl, rfl⟩ := List.mem_map.1 (List.mem_filter.1 hname).1
    rw [hasNull_eq_false_iff, String.toList_ofList]
    exact fun hnull => h ⟨l, hl, hnull⟩

theorem hasNull_render {p : Path} : hasNull p.render = false ↔ p.NullFree := by
  have hjoined : ∀ (anchor : Anchor) (names : List String),
      hasNull (anchor.text ++ String.intercalate "/" names) = false ↔
        ∀ name ∈ names, hasNull name = false := by
    intro anchor names
    have hanchor : '\x00' ∉ anchor.text.toList := by cases anchor <;> decide
    have hslash : "/".toList = ['/'] := rfl
    simp only [hasNull_eq_false_iff, String.toList_append, String.toList_intercalate, hslash,
      List.mem_append, hanchor, false_or, mem_intercalate_singleton (by decide : '\x00' ≠ '/'),
      List.mem_map, not_exists, not_and, forall_exists_index, and_imp, forall_apply_eq_imp_iff₂]
  unfold render
  split
  · exact iff_of_true (by decide) fun name hname => (by cases hname)
  · exact hjoined _ _

variable {p q : Path}

theorem NullFree.append (hp : p.NullFree) (hq : q.NullFree) : (p ++ q).NullFree := by
  show (p.append q).NullFree
  unfold Path.append
  split
  · exact List.forall_mem_append.2 ⟨hp, hq⟩
  · exact hq

theorem NullFree.parent (hp : p.NullFree) : p.parent.NullFree :=
  fun name hname => hp name ((List.dropLast_sublist _).mem hname)

theorem NullFree.absolute {cwd : List String} (hcwd : ∀ name ∈ cwd, hasNull name = false)
    (hp : p.NullFree) : (p.absolute cwd).NullFree := by
  have hfold : ∀ (names passed : List String), (∀ name ∈ names, hasNull name = false) →
      (∀ name ∈ passed, hasNull name = false) →
      ∀ name ∈ names.foldl step passed, hasNull name = false := by
    intro names
    induction names with
    | nil => exact fun passed _ hpassed => hpassed
    | cons name names ih =>
      intro passed hnames hpassed
      obtain ⟨hname, hnames⟩ := List.forall_mem_cons.1 hnames
      refine ih _ hnames ?_
      unfold step
      split
      · exact fun n hn => hpassed n ((List.dropLast_sublist _).mem hn)
      · exact List.forall_mem_append.2 ⟨hpassed, by simpa using hname⟩
  refine hfold p.names _ hp ?_
  split
  · exact hcwd
  · exact fun name hname => (by cases hname)

end Path

/-! ## Paths of sources -/

theorem hasNull_sourcePath {base source : String} (hbase : hasNull base = false)
    (hsource : hasNull source = false) : hasNull (sourcePath (some base) source) = false :=
  Path.hasNull_render.2
    ((Path.nullFree_ofString.2 hbase).append (Path.nullFree_ofString.2 hsource))

namespace FileSystem

/-- The names that lead to the working directory hold no null character. -/
def NullFree (fs : FileSystem) : Prop := ∀ name ∈ fs.workingDirectory, hasNull name = false

variable {fs : FileSystem} {path : String}

theorem nullFree_of_resolve {p : Path} (hfs : fs.NullFree) (h : fs.resolve path = .ok p) :
    p.NullFree := by
  unfold resolve at h
  split at h
  · cases h
  · next hnull =>
    cases h
    exact (Path.nullFree_ofString.2 (by simpa using hnull)).absolute hfs

theorem resolve_eq_error {failure : AccessFailure} (h : fs.resolve path = .error failure) :
    failure = .nullInPath ∧ hasNull path = true := by
  unfold resolve at h
  split at h
  · next hnull =>
    cases h
    exact ⟨rfl, hnull⟩
  · cases h

theorem exists_resolve (fs : FileSystem) (h : hasNull path = false) :
    ∃ p, fs.resolve path = .ok p := by
  rw [resolve, h]
  exact ⟨_, rfl⟩

theorem hasNull_of_read {content : ByteArray} (h : fs.read path = .ok content) :
    hasNull path = false := by
  simp only [read] at h
  split at h
  · cases h
  · next hnull => exact Path.nullFree_ofString.1 (Path.hasNull_render.1 (by simpa using hnull))

/-- A source has no lines for a reason that is reported, or because its path holds a null
character. -/
theorem load_eq_error {e : Error} (h : fs.load path = .error e) :
    (∃ cause, e = .reported cause none) ∨
      e = .fault (.access .nullInPath) ∧ hasNull path = true := by
  unfold load at h
  split at h
  · next hread =>
    cases h
    refine Or.inr ⟨rfl, ?_⟩
    cases hnull : hasNull path with
    | true => rfl
    | false =>
      have hopened := Path.hasNull_render.2 (Path.nullFree_ofString.2 hnull)
      simp only [read, hopened, Bool.false_eq_true, if_false] at hread
      split at hread <;> cases hread
  · cases h
    exact Or.inl ⟨_, rfl⟩
  · split at h
    · cases h
    · cases h
      exact Or.inl ⟨_, rfl⟩

end FileSystem

end Patchwork
