import Patchwork.Proofs.Include.Unfolding

/-!
# Expansion

What including is to make of lines with places is a recursion over lines and sources, which knows
nothing of sections: a line that is no directive stays, and a directive becomes the expansion of the
source it names, followed by its own blank (`Expansion`). A scan of a contiguous document that ends
with a document has made just that of its lines (`expansion_of_ends`).
-/

namespace Patchwork

/-- The second list is the first with every directive, also of the sources named, replaced by the
expansion of the source it names and a blank line in its own place. -/
inductive Expansion (load : Loader) (find : String → Option Directive) (base : Option String) :
    List (String × Location) → List (String × Location) → Prop
  | nil : Expansion load find base [] []
  | plain {x : String} {q : Location} {rest out : List (String × Location)}
      (hx : find x = none) (h : Expansion load find base rest out) :
      Expansion load find base ((x, q) :: rest) ((x, q) :: out)
  | directive {x : String} {q : Location} {dir : Directive} {lines : List String}
      {rest inner out : List (String × Location)} (hx : find x = some dir)
      (hl : load (sourcePath base dir.target) = .ok lines)
      (hin : Expansion load find base (placedFrom (sourcePath base dir.target) 1 lines) inner)
      (hout : Expansion load find base rest out) :
      Expansion load find base ((x, q) :: rest) (inner ++ (Text.blank x, q) :: out)

namespace Expansion

variable {load : Loader} {find : String → Option Directive} {base : Option String}

/-- Lines have one expansion at most. -/
theorem unique {entries out out' : List (String × Location)}
    (h : Expansion load find base entries out) (h' : Expansion load find base entries out') :
    out = out' := by
  induction h generalizing out' with
  | nil => cases h'; rfl
  | plain hx _ ih =>
    cases h' with
    | plain _ h' => rw [ih h']
    | directive hx' => rw [hx] at hx'; cases hx'
  | directive hx hl _ _ ihin ihout =>
    cases h' with
    | plain hx' => rw [hx] at hx'; cases hx'
    | directive hx' hl' hin' hout' =>
      obtain rfl := Option.some.inj (hx.symm.trans hx')
      obtain rfl := Except.ok.inj (hl.symm.trans hl')
      rw [ihin hin', ihout hout']

theorem plain_append {entries rest out : List (String × Location)}
    (hp : ∀ p ∈ entries, find p.1 = none) (h : Expansion load find base rest out) :
    Expansion load find base (entries ++ rest) (entries ++ out) := by
  induction entries with
  | nil => exact h
  | cons p entries ih =>
    obtain ⟨hx, hp⟩ := List.forall_mem_cons.1 hp
    exact .plain hx (ih hp)

end Expansion

namespace Section

variable {find : String → Option Directive}

theorem forall_mem_located {s : Section} (h : ∀ x ∈ s.lines, find x = none) :
    ∀ p ∈ s.located, find p.1 = none := by
  intro p hp
  have : p.1 ∈ s.located.map (·.1) := List.mem_map_of_mem hp
  rw [located, map_fst_placedFrom] at this
  exact h _ this

theorem flatMap_located_map_shift (l : List Section) (n : Int) :
    (l.map (·.shift n)).flatMap located = l.flatMap located := by
  rw [List.flatMap_map]
  congr 1
  funext s
  exact s.located_shift n

/-- A cut keeps every line in its place, and blanks the one it is made at. -/
theorem Cut.located {s upper lower : Section} {pre post : List String} {x : String} {n : Int}
    (h : s.Cut pre x post n upper lower) :
    s.located = upper.located ++
        (x, ⟨s.path, n + s.offset⟩) :: placedFrom s.path (n + s.offset + 1) post ∧
      lower.located =
        (Text.blank x, ⟨s.path, n + s.offset⟩) :: placedFrom s.path (n + s.offset + 1) post := by
  have hk : s.range.first + s.offset + (pre.length : Int) = n + s.offset := by
    have := h.line_eq
    omega
  constructor
  · rw [Section.located, Section.located, h.lines, placedFrom_append, hk, h.path_upper,
      h.first_upper, h.offset_upper, h.lines_upper, placedFrom]
  · rw [Section.located, h.path_lower, h.first_lower, h.offset_lower, h.lines_lower, placedFrom]

end Section

namespace Scan

open Section

variable {load : Loader} {find : String → Option Directive} {base : Option String}

/-- Sections that unfold do not begin with a directive, for it could not be cut. -/
theorem Unfolds.head {above above' : Above} {s : Section} {rest out : List Section} {x : String}
    {lines : List String} (h : Unfolds load find base above (s :: rest) above' out)
    (hs : s.lines = x :: lines) : find x = none := by
  cases h with
  | kept hf => exact firstDirective_eq_none_iff.1 hf x (hs ▸ List.mem_cons_self)
  | spliced hf _ hopen =>
    obtain ⟨-, pre, y, post, hcut, hpre, -⟩ := cut_of_openAt hf hopen
    have hlt := hcut.first_lt
    have hn := hcut.line_eq
    cases pre with
    | nil =>
      simp only [List.length_nil] at hn
      omega
    | cons z pre =>
      have hz := hcut.lines
      rw [hs] at hz
      obtain ⟨rfl, -⟩ := List.cons.inj hz
      exact hpre _ List.mem_cons_self

/-- The lines of the sections that an unfolding gives are the expansion of those it started from. -/
theorem Unfolds.expansion {above above' : Above} {todo out : List Section}
    (h : Unfolds load find base above todo above' out) :
    Expansion load find base (todo.flatMap located) (out.flatMap located) := by
  induction h with
  | done => exact .nil
  | kept hf _ ih =>
    rw [List.flatMap_cons, List.flatMap_cons]
    exact .plain_append (forall_mem_located (firstDirective_eq_none_iff.1 hf)) ih
  | @spliced above above₁ above₂ s upper source lower rest mid out n dir hf _ hopen _ hout ihin ihout =>
    obtain ⟨hs, pre, x, post, hcut, hpre, hx⟩ := cut_of_openAt hf hopen
    obtain ⟨hload, hpath, hfirst, hoffset⟩ := load_eq_ok hs
    obtain ⟨hlocated, hlower⟩ := hcut.located
    have hblank : find (Text.blank x) = none := hout.head hcut.lines_lower
    have hin : Expansion load find base (placedFrom (sourcePath base dir.target) 1 source.lines)
        (mid.flatMap located) := by
      rwa [List.flatMap_singleton, located_shift, located, hpath, hfirst, hoffset] at ihin
    rw [flatMap_located_map_shift, List.flatMap_cons, hlower, List.cons_append] at ihout
    generalize hlines : out.flatMap located = entries at ihout
    cases ihout with
    | directive hx' => rw [hblank] at hx'; cases hx'
    | @plain _ _ _ out' _ hrest =>
      have hupper : ∀ p ∈ upper.located, find p.1 = none :=
        forall_mem_located (hcut.lines_upper ▸ hpre)
      rw [List.flatMap_cons, hlocated, List.append_assoc, List.cons_append, List.flatMap_append,
        List.flatMap_cons, hlines, List.append_assoc]
      exact .plain_append hupper (.directive hx hload hin hrest)

/-- **Including expands.** Where the scan of a contiguous document ends with a document, the lines of
that document, each with the place it resolves to, are the expansion of the lines there were, and
sources are found from the same base. -/
theorem expansion_of_ends {d d' : Document} (hd : d.Contiguous) (h : Ends load find d (.ok d')) :
    d'.base = d.base ∧ d.Lists d.located ∧ d'.Lists d'.located ∧
      ∀ out, Expansion load find d.base d.located out ↔ out = d'.located := by
  rcases outcome_of_ends hd h with ⟨e, he, -⟩ | ⟨above, out, hr, hu⟩
  · cases he
  · obtain rfl := Except.ok.inj hr
    have hd' : Document.Contiguous ⟨d.base, out⟩ := hu.abut hd
    have hexp : Expansion load find d.base d.located (Document.located ⟨d.base, out⟩) := by
      rw [Document.located_eq, Document.located_eq]
      exact hu.expansion
    exact ⟨rfl, hd.lists_located, hd'.lists_located,
      fun entries => ⟨fun he => he.unique hexp, fun he => he ▸ hexp⟩⟩

/-- Parts of parts are expanded, and each directive leaves its blank. -/
theorem expansion_main : Sample.main.Contiguous ∧
    ∃ d', Ends Sample.sources.load Sample.find Sample.main (.ok d') ∧
      d'.located = [("a", ⟨"main", 1⟩), ("c", ⟨"part", 1⟩), ("e", ⟨"leaf", 1⟩),
        ("     ", ⟨"part", 2⟩), ("d", ⟨"part", 3⟩), ("     ", ⟨"main", 2⟩), ("b", ⟨"main", 3⟩)] ∧
      ∀ out, Expansion Sample.sources.load Sample.find none Sample.main.located out ↔
        out = d'.located := by
  have hd : Sample.main.Contiguous := ⟨rfl, trivial⟩
  have hends : Ends Sample.sources.load Sample.find Sample.main _ := ⟨20, rfl⟩
  obtain ⟨-, -, -, hexp⟩ := expansion_of_ends hd hends
  exact ⟨hd, _, hends, by decide, hexp⟩

end Scan

end Patchwork
