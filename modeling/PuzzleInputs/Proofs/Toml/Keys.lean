import Mathlib
import PuzzleInputs.Toml.Reader

/-!
# Keys of a document

In no table of a document does a key stand twice, however deep the table lies and whatever header,
dotted key or braces it comes from (`parse?_unambiguous`). Each change to the tables under construction
keeps it so: a key is added where there was none, or what stands under it is replaced. So a key of a
table is as good as a name for its value (`lookup_eq_some_iff`).
-/

namespace PuzzleInputs.Toml

/-- No two entries have the same key. -/
def DistinctKeys {α : Type} (entries : List (String × α)) : Prop := (entries.map Prod.fst).Nodup

section Entries

variable {α : Type} {entries : List (String × α)} {key : String} {x : α}

theorem lookup_eq_none_iff : entries.lookup key = none ↔ key ∉ entries.map Prod.fst := by
  rw [List.lookup_eq_none_iff]
  simp only [bne_iff_ne, ne_comm, ne_eq, List.mem_map, not_exists, not_and]

theorem mem_of_lookup (h : entries.lookup key = some x) : (key, x) ∈ entries := by
  obtain ⟨before, after, rfl, -⟩ := List.lookup_eq_some_iff.mp h
  exact List.mem_append_right _ List.mem_cons_self

theorem lookup_eq_some_iff (h : DistinctKeys entries) :
    entries.lookup key = some x ↔ (key, x) ∈ entries := by
  constructor
  · exact mem_of_lookup
  · intro hmem
    cases hlookup : entries.lookup key with
    | none => exact absurd (List.mem_map_of_mem hmem) (lookup_eq_none_iff.mp hlookup)
    | some y =>
      have hsame := List.inj_on_of_nodup_map h (mem_of_lookup hlookup) hmem rfl
      rw [(Prod.mk.inj hsame).2]

theorem DistinctKeys.concat (h : DistinctKeys entries) (hnone : entries.lookup key = none) :
    DistinctKeys (entries ++ [(key, x)]) := by
  unfold DistinctKeys
  rw [List.map_append, List.map_singleton, List.nodup_append]
  refine ⟨h, List.nodup_singleton key, fun k hk k' hk' => ?_⟩
  rw [List.mem_singleton.mp hk']
  rintro rfl
  exact lookup_eq_none_iff.mp hnone hk

end Entries

/-! ## Values and branches -/

/-- No table in the value has a key twice. -/
inductive Value.Unambiguous : Value → Prop
  | string (text : String) : Unambiguous (.string text)
  | integer (n : Int) : Unambiguous (.integer n)
  | real (x : Real) : Unambiguous (.real x)
  | boolean (b : Bool) : Unambiguous (.boolean b)
  | dateTime (d : DateTime) : Unambiguous (.dateTime d)
  | array {items : List Value} (each : ∀ v ∈ items, Unambiguous v) : Unambiguous (.array items)
  | table {entries : Table} (distinct : DistinctKeys entries)
      (each : ∀ e ∈ entries, Unambiguous e.2) : Unambiguous (.table entries)

theorem Value.Unambiguous.distinct {entries : Table} (h : (Value.table entries).Unambiguous) :
    DistinctKeys entries := by
  cases h with
  | table distinct each => exact distinct

theorem Value.Unambiguous.of_mem {entries : Table} (h : (Value.table entries).Unambiguous)
    {key : String} {v : Value} (hv : (key, v) ∈ entries) : v.Unambiguous := by
  cases h with
  | table distinct each => exact each (key, v) hv

/-- No table in the branch, or in a value on it, has a key twice. -/
inductive Branch.Unambiguous : Branch → Prop
  | leaf {v : Value} (value : v.Unambiguous) : Unambiguous (.leaf v)
  | table {origin : Origin} {entries : Branches} (distinct : DistinctKeys entries)
      (each : ∀ e ∈ entries, Unambiguous e.2) : Unambiguous (.table origin entries)
  | tables {elements : List Branches} (distinct : ∀ entries ∈ elements, DistinctKeys entries)
      (each : ∀ entries ∈ elements, ∀ e ∈ entries, Unambiguous e.2) : Unambiguous (.tables elements)

/-- A table under construction in which no key stands twice, at any depth. -/
structure Keyed (entries : Branches) : Prop where
  distinct : DistinctKeys entries
  each : ∀ e ∈ entries, e.2.Unambiguous

namespace Branch

theorem toEntries_eq_map (entries : Branches) :
    toEntries entries = entries.map fun e => (e.1, e.2.toValue) := by
  induction entries with
  | nil => rw [toEntries, List.map_nil]
  | cons e entries ih =>
    obtain ⟨key, b⟩ := e
    rw [toEntries, List.map_cons, ih]

theorem toArray_eq_map (elements : List Branches) :
    toArray elements = elements.map fun entries => .table (toEntries entries) := by
  induction elements with
  | nil => rw [toArray, List.map_nil]
  | cons entries elements ih => rw [toArray, List.map_cons, ih]

theorem unambiguous_table {entries : Branches} (distinct : DistinctKeys entries)
    (each : ∀ e ∈ entries, e.2.toValue.Unambiguous) :
    (Value.table (toEntries entries)).Unambiguous := by
  rw [toEntries_eq_map]
  refine .table ?_ fun e he => ?_
  · unfold DistinctKeys
    rwa [List.map_map]
  · obtain ⟨e', he', rfl⟩ := List.mem_map.mp he
    exact each e' he'

theorem Unambiguous.toValue {b : Branch} (h : b.Unambiguous) : b.toValue.Unambiguous := by
  induction h with
  | leaf value =>
    rw [Branch.toValue]
    exact value
  | table distinct each ih =>
    rw [Branch.toValue]
    exact unambiguous_table distinct ih
  | tables distinct each ih =>
    rw [Branch.toValue, toArray_eq_map]
    refine .array fun v hv => ?_
    obtain ⟨entries, hentries, rfl⟩ := List.mem_map.mp (List.mem_reverse.mp hv)
    exact unambiguous_table (distinct entries hentries) (ih entries hentries)

end Branch

/-! ## Tables under construction -/

namespace Keyed

variable {entries entries' : Branches} {key : String} {b : Branch}

theorem nil : Keyed [] := ⟨List.nodup_nil, fun _ he => nomatch he⟩

theorem lookup (h : Keyed entries) (hb : entries.lookup key = some b) : b.Unambiguous :=
  h.each _ (mem_of_lookup hb)

theorem table (h : Keyed entries) (origin : Origin) : (Branch.table origin entries).Unambiguous :=
  .table h.distinct h.each

theorem of_table {origin : Origin} (h : (Branch.table origin entries).Unambiguous) :
    Keyed entries := by
  cases h with
  | table distinct each => exact ⟨distinct, each⟩

theorem of_tables {elements : List Branches} (h : (Branch.tables elements).Unambiguous) :
    ∀ es ∈ elements, Keyed es := by
  cases h with
  | tables distinct each => exact fun es hes => ⟨distinct es hes, each es hes⟩

theorem tables {before : List Branches} (h : Keyed entries) (hbefore : ∀ es ∈ before, Keyed es) :
    (Branch.tables (entries :: before)).Unambiguous := by
  have hall := List.forall_mem_cons.mpr ⟨h, hbefore⟩
  exact .tables (fun es hes => (hall es hes).distinct) fun es hes => (hall es hes).each

/-- A new key. -/
theorem concat (h : Keyed entries) (hnone : entries.lookup key = none) (hb : b.Unambiguous) :
    Keyed (entries ++ [(key, b)]) := by
  refine ⟨h.distinct.concat hnone, fun e he => ?_⟩
  rcases List.mem_append.mp he with he | he
  · exact h.each e he
  · rw [List.mem_singleton.mp he]
    exact hb

theorem map_fst_put {old : Branch} (hold : entries.lookup key = some old) :
    (Branch.put key b entries).map Prod.fst = entries.map Prod.fst := by
  induction entries with
  | nil => cases hold
  | cons e entries ih =>
    obtain ⟨k, x⟩ := e
    unfold Branch.put
    by_cases hk : k = key
    · rw [if_pos hk, List.map_cons, List.map_cons, hk]
    · have hne : (key == k) = false := beq_eq_false_iff_ne.mpr fun he => hk he.symm
      rw [List.lookup_cons, hne] at hold
      rw [if_neg hk, List.map_cons, List.map_cons, ih hold]

theorem mem_put {e : String × Branch} (he : e ∈ Branch.put key b entries) :
    e = (key, b) ∨ e ∈ entries := by
  induction entries with
  | nil => exact .inl (List.mem_singleton.mp he)
  | cons head entries ih =>
    obtain ⟨k, x⟩ := head
    unfold Branch.put at he
    split at he
    · exact (List.mem_cons.mp he).imp_right (List.mem_cons_of_mem _)
    · rcases List.mem_cons.mp he with rfl | he
      · exact .inr List.mem_cons_self
      · exact (ih he).imp_right (List.mem_cons_of_mem _)

/-- Another branch under a key that is there. -/
theorem put {old : Branch} (h : Keyed entries) (hold : entries.lookup key = some old)
    (hb : b.Unambiguous) : Keyed (Branch.put key b entries) := by
  refine ⟨?_, fun e he => ?_⟩
  · unfold DistinctKeys
    rw [map_fst_put hold]
    exact h.distinct
  · rcases mem_put he with rfl | he
    · exact hb
    · exact h.each e he

/-- Other entries in a table that is there. -/
theorem put_table {origin : Origin} {inner inner' : Branches} (h : Keyed entries)
    (hold : entries.lookup key = some (.table origin inner)) (origin' : Origin)
    (hinner : Keyed inner → Keyed inner') :
    Keyed (Branch.put key (.table origin' inner') entries) :=
  h.put hold ((hinner (of_table (h.lookup hold))).table origin')

/-- Other entries in the last table of an array that is there. -/
theorem put_last {last last' : Branches} {before : List Branches} (h : Keyed entries)
    (hold : entries.lookup key = some (.tables (last :: before))) (hlast : Keyed last → Keyed last') :
    Keyed (Branch.put key (.tables (last' :: before)) entries) := by
  obtain ⟨hkeyed, hbefore⟩ := List.forall_mem_cons.mp (of_tables (h.lookup hold))
  exact h.put hold ((hlast hkeyed).tables hbefore)

end Keyed

/-! ## Changes -/

/-- The change leaves no key twice. -/
def KeepsKeys (change : Branches → Option Branches) : Prop :=
  ∀ entries entries', Keyed entries → change entries = some entries' → Keyed entries'

namespace Branch

theorem keepsKeys_assign {v : Value} (hv : v.Unambiguous) (key : String) (keys : List String) :
    KeepsKeys (assign v key keys) := by
  induction keys with
  | nil =>
    intro entries entries' h he
    unfold assign at he
    split at he
    · cases he
    · next hnone =>
      cases he
      exact h.concat (Option.not_isSome_iff_eq_none.mp hnone) (.leaf hv)
  | cons next keys ih =>
    intro entries entries' h he
    unfold assign at he
    split at he
    · next hnone =>
      obtain ⟨inner, hinner, he⟩ := Option.bind_eq_some_iff.mp he
      cases he
      exact h.concat hnone ((ih _ _ .nil hinner).table _)
    · next origin inner hsome =>
      split at he
      · cases he
      · obtain ⟨inner', hinner, he⟩ := Option.bind_eq_some_iff.mp he
        cases he
        exact h.put_table hsome _ fun hkeyed => ih _ _ hkeyed hinner
    · next last before hsome =>
      split at he
      · cases he
      · obtain ⟨last', hlast, he⟩ := Option.bind_eq_some_iff.mp he
        cases he
        exact h.put_last hsome fun hkeyed => ih _ _ hkeyed hlast
    · cases he

theorem keepsKeys_within {change : Branches → Option Branches} (hc : KeepsKeys change)
    (keys : List String) : KeepsKeys (within change keys) := by
  induction keys with
  | nil => exact hc
  | cons key keys ih =>
    intro entries entries' h he
    unfold within at he
    split at he
    · next hnone =>
      obtain ⟨inner, hinner, he⟩ := Option.bind_eq_some_iff.mp he
      cases he
      exact h.concat hnone ((ih _ _ .nil hinner).table _)
    · next origin inner hsome =>
      obtain ⟨inner', hinner, he⟩ := Option.bind_eq_some_iff.mp he
      cases he
      exact h.put_table hsome _ fun hkeyed => ih _ _ hkeyed hinner
    · next last before hsome =>
      obtain ⟨last', hlast, he⟩ := Option.bind_eq_some_iff.mp he
      cases he
      exact h.put_last hsome fun hkeyed => ih _ _ hkeyed hlast
    · cases he

theorem keepsKeys_openTable (key : String) : KeepsKeys (openTable key) := by
  intro entries entries' h he
  unfold openTable at he
  split at he
  · next hnone =>
    cases he
    exact h.concat hnone (Keyed.nil.table _)
  · next inner hsome =>
    cases he
    exact h.put_table hsome _ id
  · cases he

theorem keepsKeys_appendTable (key : String) : KeepsKeys (appendTable key) := by
  intro entries entries' h he
  unfold appendTable at he
  split at he
  · next hnone =>
    cases he
    exact h.concat hnone (Keyed.nil.tables fun es hes => nomatch hes)
  · next elements hsome =>
    cases he
    exact h.put hsome (Keyed.nil.tables (Keyed.of_tables (h.lookup hsome)))
  · cases he

end Branch

/-! ## Readers -/

/-- What the reader reads has no key twice. -/
def ReadsKeyed (item : Reader Value) : Prop :=
  ∀ cs v rest, item cs = some (v, rest) → v.Unambiguous

theorem unambiguous_bareValue {token : List Char} {v : Value} (h : bareValue? token = some v) :
    v.Unambiguous := by
  unfold bareValue? at h
  split at h
  · cases h
    exact .boolean true
  · split at h
    · cases h
      exact .boolean false
    · simp only [Option.orElse_eq_orElse, Option.orElse_eq_or, Option.or_eq_some_iff,
        Option.map_eq_some_iff] at h
      rcases h with ⟨n, -, rfl⟩ | ⟨-, ⟨x, -, rfl⟩ | ⟨-, d, -, rfl⟩⟩
      · exact .integer n
      · exact .real x
      · exact .dateTime d

theorem readsKeyed_scalarToken : ReadsKeyed scalarToken? := by
  intro cs v rest h
  unfold scalarToken? at h
  dsimp only at h
  have hbare : ∀ {token : List Char} {rest' : List Char},
      ((bareValue? token).bind fun v' => some (v', rest')) = some (v, rest) → v.Unambiguous := by
    intro token rest' h
    obtain ⟨v', hv', he⟩ := Option.bind_eq_some_iff.mp h
    cases he
    exact unambiguous_bareValue hv'
  split at h
  · split at h
    · exact hbare h
    · exact hbare h
  · exact hbare h

theorem readsKeyed_plainValue : ReadsKeyed plainValue := by
  have hstring : ∀ {cs : List Char} {v : Value} {rest : List Char},
      ((string? cs).map fun x => (Value.string x.1, x.2)) = some (v, rest) → v.Unambiguous := by
    intro cs v rest h
    obtain ⟨x, -, he⟩ := Option.map_eq_some_iff.mp h
    cases he
    exact .string x.1
  intro cs v rest h
  unfold plainValue at h
  split at h
  · exact hstring h
  · exact hstring h
  · exact readsKeyed_scalarToken _ _ _ h

theorem unambiguous_items {item : Reader Value} (hitem : ReadsKeyed item) (fuel : Nat)
    {cs : List Char} {vs : List Value} {rest : List Char}
    (h : items item fuel cs = some (vs, rest)) : ∀ v ∈ vs, v.Unambiguous := by
  induction fuel generalizing cs vs rest with
  | zero => cases h
  | succ fuel ih =>
    unfold items at h
    obtain ⟨start, -, h⟩ := Option.bind_eq_some_iff.mp h
    split at h
    · cases h
      exact fun v hv => nomatch hv
    · obtain ⟨⟨v, behind⟩, hv, h⟩ := Option.bind_eq_some_iff.mp h
      obtain ⟨next, -, h⟩ := Option.bind_eq_some_iff.mp h
      split at h
      · obtain ⟨⟨vs', rest'⟩, hvs, h⟩ := Option.bind_eq_some_iff.mp h
        cases h
        exact List.forall_mem_cons.mpr ⟨hitem _ _ _ hv, ih hvs⟩
      · cases h
        exact List.forall_mem_singleton.mpr (hitem _ _ _ hv)
      · cases h

theorem unambiguous_assignment {skip : List Char → Option (List Char)} {item : Reader Value}
    (hitem : ReadsKeyed item) {cs : List Char} {path : List String} {key : String} {v : Value}
    {rest : List Char} (h : assignment skip item cs = some ((path, key, v), rest)) :
    v.Unambiguous := by
  unfold assignment at h
  obtain ⟨⟨keys, behind⟩, -, h⟩ := Option.bind_eq_some_iff.mp h
  obtain ⟨⟨path', key'⟩, -, h⟩ := Option.bind_eq_some_iff.mp h
  obtain ⟨sign, -, h⟩ := Option.bind_eq_some_iff.mp h
  split at h
  · obtain ⟨start, -, h⟩ := Option.bind_eq_some_iff.mp h
    obtain ⟨⟨v', rest'⟩, hv, h⟩ := Option.bind_eq_some_iff.mp h
    cases h
    exact hitem _ _ _ hv
  · cases h

theorem keyed_pairs {item : Reader Value} (hitem : ReadsKeyed item) (fuel : Nat)
    {entries entries' : Branches} {cs rest : List Char} (hkeyed : Keyed entries)
    (h : pairs item fuel entries cs = some (entries', rest)) : Keyed entries' := by
  induction fuel generalizing entries cs with
  | zero => cases h
  | succ fuel ih =>
    unfold pairs at h
    obtain ⟨start, -, h⟩ := Option.bind_eq_some_iff.mp h
    split at h
    · cases h
      exact hkeyed
    · obtain ⟨⟨⟨path, key, v⟩, behind⟩, hpair, h⟩ := Option.bind_eq_some_iff.mp h
      obtain ⟨more, hmore, h⟩ := Option.bind_eq_some_iff.mp h
      have hv := unambiguous_assignment hitem hpair
      have hkeyed' := Branch.keepsKeys_assign hv key path _ _ hkeyed hmore
      obtain ⟨next, -, h⟩ := Option.bind_eq_some_iff.mp h
      split at h
      · exact ih hkeyed' h
      · cases h
        exact hkeyed'
      · cases h

theorem Keyed.unambiguous {entries : Branches} (h : Keyed entries) :
    (Value.table (Branch.toEntries entries)).Unambiguous :=
  Branch.unambiguous_table h.distinct fun e he => (h.each e he).toValue

theorem readsKeyed_value (depth : Nat) : ReadsKeyed (value depth) := by
  induction depth with
  | zero => exact readsKeyed_plainValue
  | succ depth ih =>
    intro cs v rest h
    unfold value at h
    split at h
    · obtain ⟨⟨vs, rest'⟩, hvs, he⟩ := Option.map_eq_some_iff.mp h
      cases he
      exact .array (unambiguous_items ih _ hvs)
    · obtain ⟨⟨entries, rest'⟩, hentries, he⟩ := Option.map_eq_some_iff.mp h
      cases he
      exact (keyed_pairs ih _ .nil hentries).unambiguous
    · exact readsKeyed_plainValue _ _ _ h

/-! ## Documents -/

theorem keyed_header {root root' : Branches} {cs rest : List Char} {here : List String}
    (hkeyed : Keyed root) (h : header root cs = some ((here, root'), rest)) : Keyed root' := by
  unfold header at h
  dsimp only at h
  obtain ⟨⟨keys, behind⟩, -, h⟩ := Option.bind_eq_some_iff.mp h
  obtain ⟨⟨path, key⟩, -, h⟩ := Option.bind_eq_some_iff.mp h
  dsimp only at h
  split at h
  · obtain ⟨changed, hchanged, h⟩ := Option.bind_eq_some_iff.mp h
    cases h
    exact Branch.keepsKeys_within (Branch.keepsKeys_appendTable key) path _ _ hkeyed hchanged
  · obtain ⟨changed, hchanged, h⟩ := Option.bind_eq_some_iff.mp h
    cases h
    exact Branch.keepsKeys_within (Branch.keepsKeys_openTable key) path _ _ hkeyed hchanged
  · cases h

theorem keyed_statements (fuel : Nat) {here : List String} {root root' : Branches}
    {cs : List Char} (hkeyed : Keyed root) (h : statements fuel here root cs = some root') :
    Keyed root' := by
  induction fuel generalizing here root cs with
  | zero => cases h
  | succ fuel ih =>
    unfold statements at h
    obtain ⟨start, -, h⟩ := Option.bind_eq_some_iff.mp h
    split at h
    · cases h
      exact hkeyed
    · obtain ⟨⟨⟨here', changed⟩, behind⟩, hheader, h⟩ := Option.bind_eq_some_iff.mp h
      obtain ⟨next, -, h⟩ := Option.bind_eq_some_iff.mp h
      exact ih (keyed_header hkeyed hheader) h
    · obtain ⟨⟨⟨path, key, v⟩, behind⟩, hpair, h⟩ := Option.bind_eq_some_iff.mp h
      obtain ⟨changed, hchanged, h⟩ := Option.bind_eq_some_iff.mp h
      obtain ⟨next, -, h⟩ := Option.bind_eq_some_iff.mp h
      have hv := unambiguous_assignment (readsKeyed_value depthLimit) hpair
      have hchange := Branch.keepsKeys_within (Branch.keepsKeys_assign hv key path) here
      exact ih (hchange _ _ hkeyed hchanged) h

/-- No key stands twice in a table of a document. -/
theorem parse?_unambiguous {text : String} {table : Table} (h : parse? text = some table) :
    (Value.table table).Unambiguous := by
  unfold parse? at h
  obtain ⟨root, hroot, rfl⟩ := Option.map_eq_some_iff.mp h
  exact (keyed_statements _ .nil hroot).unambiguous

end PuzzleInputs.Toml
