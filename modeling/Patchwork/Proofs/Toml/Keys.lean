import Patchwork.Toml.Parse

/-!
# Names in tables

However a TOML document spells its tables, with headers, dotted keys, inline tables or lists of
tables, what it stands for is a table that has each name once, and so has every table inside it
(`parse_keyed`). The reader has no check for this at the end: tables grow by `OptionTable.put` alone,
which puts a value in the place of the one that has the name.
-/

namespace Patchwork

/-! ## Tables with each name once -/

/-- Every table in the value has each name once. -/
inductive OptionValue.Keyed : OptionValue → Prop
  | plain {v : OptionValue} (h : Toml.isContainer v = false) : Keyed v
  | list {vs : List OptionValue} (h : ∀ v ∈ vs, Keyed v) : Keyed (.list vs)
  | table {entries : List (String × OptionValue)} (hnames : (entries.map Prod.fst).Nodup)
      (h : ∀ e ∈ entries, Keyed e.2) : Keyed (.table entries)

namespace OptionTable

/-- The table has each name once, and so has every table in it. -/
structure Keyed (t : OptionTable) : Prop where
  nodup : (t.map Prod.fst).Nodup
  values : ∀ e ∈ t, e.2.Keyed

variable {t : OptionTable} {name : String} {v : OptionValue}

theorem keyed_table : (OptionValue.table t).Keyed ↔ t.Keyed := by
  constructor
  · intro h
    cases h with
    | plain h => cases h
    | table hnames h => exact ⟨hnames, h⟩
  · intro h
    exact .table h.nodup h.values

theorem keyed_list {vs : List OptionValue} :
    (OptionValue.list vs).Keyed ↔ ∀ v ∈ vs, v.Keyed := by
  constructor
  · intro h
    cases h with
    | plain h => cases h
    | list h => exact h
  · exact .list

theorem Keyed.nil : Keyed [] := ⟨List.nodup_nil, fun _ he => absurd he List.not_mem_nil⟩

theorem keyed_cons {e : String × OptionValue} :
    Keyed (e :: t) ↔ e.1 ∉ t.map Prod.fst ∧ e.2.Keyed ∧ t.Keyed := by
  constructor
  · intro h
    obtain ⟨hfresh, hnodup⟩ := List.nodup_cons.1 h.nodup
    obtain ⟨he, hvalues⟩ := List.forall_mem_cons.1 h.values
    exact ⟨hfresh, he, hnodup, hvalues⟩
  · intro ⟨hfresh, he, ht⟩
    exact ⟨List.nodup_cons.2 ⟨hfresh, ht.nodup⟩, List.forall_mem_cons.2 ⟨he, ht.values⟩⟩

theorem Keyed.of_lookup (ht : t.Keyed) (h : t.lookup name = some v) : v.Keyed := by
  obtain ⟨before, after, rfl, -⟩ := List.lookup_eq_some_iff.1 h
  exact ht.values (name, v) (by simp)

theorem mem_names_put {k : String} :
    k ∈ (t.put name v).map Prod.fst ↔ k = name ∨ k ∈ t.map Prod.fst := by
  induction t with
  | nil => simp [put]
  | cons e t ih =>
    by_cases h : e.1 = name
    · simp [put, h]
    · simp only [put, h, if_false, List.map_cons, List.mem_cons, ih]
      exact or_left_comm

theorem Keyed.put (ht : t.Keyed) (hv : v.Keyed) : (t.put name v).Keyed := by
  induction t with
  | nil => exact keyed_cons.2 ⟨List.not_mem_nil, hv, .nil⟩
  | cons e t ih =>
    obtain ⟨hfresh, he, ht⟩ := keyed_cons.1 ht
    by_cases h : e.1 = name
    · simp only [OptionTable.put, h, if_true]
      exact keyed_cons.2 ⟨h ▸ hfresh, hv, ht⟩
    · simp only [OptionTable.put, h, if_false]
      refine keyed_cons.2 ⟨?_, he, ih ht⟩
      intro hmem
      rcases mem_names_put.1 hmem with hname | hmem
      · exact h hname
      · exact hfresh hmem

end OptionTable

namespace Toml

open OptionTable (keyed_table keyed_list)

/-! ## What readers give -/

/-- Where the reader gives something at all, it is in `P`. -/
def Gives {α : Type} (P : α → Prop) : Except Failure α → Prop
  | .ok a => P a
  | .error _ => True

namespace Gives

variable {α β : Type} {P : α → Prop} {Q : β → Prop} {x : Except Failure α}
  {f : α → Except Failure β}

theorem bind (hx : Gives P x) (hf : ∀ a, P a → Gives Q (f a)) : Gives Q (x >>= f) := by
  cases x with
  | ok a => exact hf a hx
  | error e => trivial

/-- Whatever was given before. -/
theorem after (hf : ∀ a, Gives Q (f a)) : Gives Q (x >>= f) := by
  cases x with
  | ok a => exact hf a
  | error e => trivial

theorem mono {P' : α → Prop} (h : ∀ a, P a → P' a) (hx : Gives P x) : Gives P' x := by
  cases x with
  | ok a => exact h a hx
  | error e => trivial

theorem of_eq_ok {a : α} (h : Gives P x) (hx : x = .ok a) : P a := by
  subst hx
  exact h

end Gives

/-! ## Reaching into tables -/

section

variable {f : OptionTable → Except Failure OptionTable} {throughLists : Bool} {t : OptionTable}
  {name : String}

theorem gives_changeLast {P : OptionValue → Prop} {g : OptionValue → Except Failure OptionValue}
    {vs : List OptionValue} (hg : ∀ v, P v → Gives P (g v)) (hvs : ∀ v ∈ vs, P v) :
    Gives (fun vs' => ∀ v ∈ vs', P v) (changeLast g vs) := by
  induction vs with
  | nil => trivial
  | cons v rest ih =>
    obtain ⟨hv, hrest⟩ := List.forall_mem_cons.1 hvs
    cases rest with
    | nil =>
      rw [changeLast]
      refine (hg v hv).bind fun v' hv' => ?_
      exact List.forall_mem_cons.2 ⟨hv', by simp⟩
    | cons w rest =>
      rw [changeLast]
      · refine (ih hrest).bind fun vs' hvs' => ?_
        exact List.forall_mem_cons.2 ⟨hv, hvs'⟩
      · simp

/-- By induction on the key, since the way to the changed table is made of `put`s. -/
theorem gives_inside (hf : ∀ t : OptionTable, t.Keyed → Gives OptionTable.Keyed (f t)) {key : Key}
    (ht : t.Keyed) : Gives OptionTable.Keyed (inside throughLists f key t) := by
  induction key generalizing t with
  | nil => exact hf t ht
  | cons k ks ih =>
    rw [inside]
    cases hlookup : t.lookup k with
    | none =>
      refine (ih OptionTable.Keyed.nil).bind fun t' ht' => ?_
      exact ht.put (keyed_table.2 ht')
    | some v =>
      have hv := ht.of_lookup hlookup
      cases v with
      | table t' =>
        refine (ih (keyed_table.1 hv)).bind fun t'' ht'' => ?_
        exact ht.put (keyed_table.2 ht'')
      | list vs =>
        by_cases hthrough : throughLists = true
        · simp only [hthrough, if_true] at ih ⊢
          refine (gives_changeLast ?_ (keyed_list.1 hv)).bind fun vs' hvs' => ?_
          · intro w hw
            split
            · refine (ih (keyed_table.1 hw)).bind fun t' ht' => ?_
              exact keyed_table.2 ht'
            · trivial
          · exact ht.put (keyed_list.2 hvs')
        · simp only [hthrough]
          trivial
      | _ => trivial

theorem gives_addEntry {v : OptionValue} (hv : v.Keyed) (ht : t.Keyed) :
    Gives OptionTable.Keyed (addEntry name v t) := by
  unfold addEntry
  split
  · trivial
  · exact ht.put hv

theorem gives_addTable (ht : t.Keyed) : Gives OptionTable.Keyed (addTable name t) := by
  have hempty : (OptionValue.table []).Keyed := keyed_table.2 OptionTable.Keyed.nil
  unfold addTable
  split
  · refine ht.put (keyed_list.2 ?_)
    simpa using hempty
  · next vs hlookup =>
    have hvs := keyed_list.1 (ht.of_lookup hlookup)
    refine ht.put (keyed_list.2 ?_)
    intro v hv
    rcases List.mem_append.1 hv with hv | hv
    · exact hvs v hv
    · exact List.mem_singleton.1 hv ▸ hempty
  · trivial

end

/-! ## Values -/

section

variable {cs : List Char} {reading : OptionValue × List Char}
  {result : Except Failure (OptionValue × List Char)}

/-- What has been read is neither a list nor a table. -/
abbrev Plain (reading : OptionValue × List Char) : Prop := isContainer reading.1 = false

theorem plain_of_dateTime? (h : dateTime? cs = some result) : Gives Plain result := by
  simp only [dateTime?, Option.bind_eq_bind, Option.bind_eq_some_iff] at h
  obtain ⟨⟨⟨year, month, day⟩, rest⟩, -, h⟩ := h
  split at h
  · cases h
    trivial
  · split at h
    · cases h
      exact rfl
    · cases h
      exact rfl

theorem plain_of_inBase {base : Nat} {isDigit : Char → Bool}
    (h : basedInteger?.inBase base isDigit cs = some reading) : Plain reading := by
  obtain ⟨digits, -, rfl⟩ := Option.map_eq_some_iff.1 h
  rfl

theorem plain_of_basedInteger? (h : basedInteger? cs = some reading) : Plain reading := by
  unfold basedInteger? at h
  split at h
  · exact plain_of_inBase h
  · exact plain_of_inBase h
  · exact plain_of_inBase h
  · cases h

theorem plain_of_decimalNumber? {negative : Bool} (h : decimalNumber? negative cs = some result) :
    Gives Plain result := by
  simp only [decimalNumber?, Option.bind_eq_bind, Option.bind_eq_some_iff] at h
  obtain ⟨⟨digits, rest⟩, -, h⟩ := h
  split at h
  · cases h
    exact rfl
  · split at h
    · cases h
      trivial
    · cases h
      exact rfl

theorem plain_of_specialNumber? (h : specialNumber? cs = some result) : Gives Plain result := by
  unfold specialNumber? at h
  split at h
  · cases h
    exact rfl
  · cases h
    exact rfl
  · cases h

theorem plain_of_number? (h : number? cs = some result) : Gives Plain result := by
  have hsigned : ∀ {negative rest}, number?.signed negative rest = some result →
      Gives Plain result := by
    intro negative rest h
    unfold number?.signed at h
    cases hdecimal : decimalNumber? negative rest with
    | none =>
      rw [hdecimal] at h
      exact plain_of_specialNumber? h
    | some result' =>
      rw [hdecimal] at h
      cases h
      exact plain_of_decimalNumber? hdecimal
  unfold number? at h
  split at h
  · next reading hbased =>
    cases h
    exact plain_of_basedInteger? hbased
  · split at h
    · exact hsigned h
    · exact hsigned h
    · exact hsigned h

theorem gives_plainScalar (cs : List Char) : Gives Plain (plainScalar cs) := by
  unfold plainScalar
  split
  · exact rfl
  · exact rfl
  · split
    · next reading hdate => exact plain_of_dateTime? hdate
    · split
      · exact rfl
      · cases hnumber : number? cs with
        | none => trivial
        | some result => exact plain_of_number? hnumber

end

theorem gives_addInline {marks : Marks} {table : OptionTable} {key : Key} {v : OptionValue}
    (ht : table.Keyed) (hv : v.Keyed) : Gives OptionTable.Keyed (addInline marks table key v) := by
  unfold addInline
  split
  · trivial
  · exact gives_inside (fun _ ht => gives_addEntry hv ht) ht

/-- By induction on the fuel, which values, items and pairs share. -/
theorem gives_value (fuel : Nat) :
    (∀ cs, Gives (fun r => r.1.Keyed) (value fuel cs)) ∧
    (∀ cs, Gives (fun r => ∀ v ∈ r.1, v.Keyed) (arrayItems fuel cs)) ∧
    ∀ marks table cs, table.Keyed →
      Gives (fun r => r.1.Keyed) (inlinePairs fuel marks table cs) := by
  induction fuel with
  | zero => exact ⟨fun _ => trivial, fun _ => trivial, fun _ _ _ _ => trivial⟩
  | succ fuel ih =>
    obtain ⟨hvalue, hitems, hpairs⟩ := ih
    refine ⟨fun cs => ?_, fun cs => ?_, fun marks table cs ht => ?_⟩
    · have htext : ∀ r : String × List Char, (OptionValue.text r.1).Keyed := fun _ => .plain rfl
      unfold value
      split
      · exact .after htext
      · exact .after htext
      · exact .after htext
      · exact .after htext
      · exact (hitems _).bind fun r hr => keyed_list.2 hr
      · split
        · exact keyed_table.2 .nil
        · exact (hpairs [] [] _ .nil).bind fun r hr => keyed_table.2 hr
      · refine Gives.mono ?_ (gives_plainScalar cs)
        exact fun r hr => .plain hr
    · rw [arrayItems]
      refine .after fun cs' => ?_
      split
      · exact fun _ hv => absurd hv List.not_mem_nil
      · refine (hvalue cs').bind fun r hr => .after fun rest => ?_
        split
        · exact List.forall_mem_singleton.2 hr
        · refine (hitems _).bind fun r' hr' => ?_
          exact List.forall_mem_cons.2 ⟨hr, hr'⟩
        · trivial
    · rw [inlinePairs]
      refine .after fun r => .after fun rest => (hvalue rest).bind fun r' hr' => ?_
      refine (gives_addInline ht hr').bind fun table' ht' => ?_
      split
      · exact ht'
      · exact hpairs _ _ _ ht'
      · trivial

/-! ## Documents -/

namespace Builder

variable {b : Builder} {k : Key}

theorem gives_openTable (hb : b.table.Keyed) : Gives (·.table.Keyed) (b.openTable k) := by
  unfold openTable
  split
  · trivial
  · exact (gives_inside (f := .ok) (fun _ ht => ht) hb).bind fun _ ht => ht

theorem gives_openListItem (hb : b.table.Keyed) : Gives (·.table.Keyed) (b.openListItem k) := by
  unfold openListItem
  split
  · trivial
  · exact (gives_inside (fun _ ht => gives_addTable ht) hb).bind fun _ ht => ht

theorem gives_addPair {v : OptionValue} (hb : b.table.Keyed) (hv : v.Keyed) :
    Gives (·.table.Keyed) (b.addPair k v) := by
  simp only [addPair]
  split
  · trivial
  · split
    · trivial
    · exact (gives_inside (fun _ ht => gives_addEntry hv ht) hb).bind fun _ ht => ht

end Builder

theorem gives_statement {b : Builder} (hb : b.table.Keyed) (cs : List Char) :
    Gives (·.1.table.Keyed) (statement b cs) := by
  unfold statement
  split
  · refine .after fun r => ?_
    exact (Builder.gives_openListItem (b := b.atHeader) hb).bind fun b' hb' => .after fun _ => hb'
  · refine .after fun r => ?_
    exact (Builder.gives_openTable (b := b.atHeader) hb).bind fun b' hb' => .after fun _ => hb'
  · refine .after fun r => .after fun rest => ((gives_value _).1 rest).bind fun r' hr' => ?_
    exact (Builder.gives_addPair hb hr').bind fun b' hb' => hb'

theorem gives_document {fuel : Nat} {b : Builder} (hb : b.table.Keyed) (cs : List Char) :
    Gives OptionTable.Keyed (document fuel b cs) := by
  induction fuel generalizing b cs with
  | zero => trivial
  | succ fuel ih =>
    rw [document]
    split
    · exact hb
    · exact ih hb _
    · next c rest _ _ =>
      by_cases h : c = '#'
      · simp only [h, if_true, pure_bind]
        refine .after fun rest' => ?_
        split
        · exact hb
        · exact ih hb _
        · trivial
      · simp only [h, if_false, pure_bind]
        refine (gives_statement hb _).bind fun r hr => .after fun rest' => ?_
        split
        · exact hr
        · exact ih hr _
        · trivial

/-- What a TOML document stands for has each name once, in every table. -/
theorem parse_keyed {text : String} {table : OptionTable} (h : parse text = .ok table) :
    table.Keyed :=
  (gives_document OptionTable.Keyed.nil _).of_eq_ok h

end Toml

end Patchwork
