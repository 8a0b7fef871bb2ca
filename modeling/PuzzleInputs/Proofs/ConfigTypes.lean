import Mathlib
import PuzzleInputs.Config
import PuzzleInputs.Proofs.Toml.Keys

/-!
# Types of a config file

A document is a config if each key that is known has a value of its type (`WellTyped`), and then the
config holds what stands under these keys and nothing else (`Describes`). One value of a wrong type
spoils the whole, a value under another key never matters (`parse?_by_type`).

A date-time under `accounts` is left out of this: it is read as a table of its own.
-/

namespace PuzzleInputs.Config

open Toml (Table Value DistinctKeys)

/-! ## Types -/

def IsString (v : Value) : Prop := ∃ text, v = .string text

def IsBoolean (v : Value) : Prop := ∃ b, v = .boolean b

/-- A number of 64 bits without a sign. -/
def IsCount (v : Value) : Prop := ∃ n : Nat, v = .integer n ∧ n < 2 ^ 64

/-- A table with strings in it and nothing else. -/
def IsStrings (v : Value) : Prop := ∃ entries, v = .table entries ∧ ∀ e ∈ entries, IsString e.2

def stringKeys : List String :=
  ["session_file", "account", "output_dir", "timezone", "base_url", "user_agent"]

/-- The keys that count. -/
def knownKeys : List String := stringKeys ++ ["retries", "verbose", "accounts"]

/-- What stands under a known key has the type that it must have. -/
structure WellTyped (table : Table) : Prop where
  strings : ∀ key ∈ stringKeys, ∀ v, (key, v) ∈ table → IsString v
  retries : ∀ v, ("retries", v) ∈ table → IsCount v
  verbose : ∀ v, ("verbose", v) ∈ table → IsBoolean v
  accounts : ∀ v, ("accounts", v) ∈ table → IsStrings v

/-- The config holds what stands under the known keys, and nothing where there is nothing. -/
structure Describes (path : Path) (table : Table) (config : Config) : Prop where
  sessionFile : ∀ p, config.sessionFile = some p ↔ ("session_file", .string p.text) ∈ table
  account : ∀ text, config.account = some text ↔ ("account", .string text) ∈ table
  outputDir : ∀ p, config.outputDir = some p ↔ ("output_dir", .string p.text) ∈ table
  timezone : ∀ text, config.timezone = some text ↔ ("timezone", .string text) ∈ table
  baseUrl : ∀ text, config.baseUrl = some text ↔ ("base_url", .string text) ∈ table
  userAgent : ∀ text, config.userAgent = some text ↔ ("user_agent", .string text) ∈ table
  retries : ∀ n : Nat, config.retries = some n ↔ ("retries", .integer n) ∈ table
  verbose : config.verbose = true ↔ ("verbose", .boolean true) ∈ table
  accounts : ∀ label token, (label, token) ∈ config.accounts ↔
    ∃ entries, ("accounts", .table entries) ∈ table ∧ (label, .string token) ∈ entries
  /-- No label stands for two tokens. -/
  labels : DistinctKeys config.accounts
  loadedFrom : config.loadedFrom = some path

theorem asString_eq_some {v : Value} {text : String} : asString v = some text ↔ v = .string text := by
  cases v <;> simp [asString]

theorem asBoolean_eq_some {v : Value} {b : Bool} : asBoolean v = some b ↔ v = .boolean b := by
  cases v <;> simp [asBoolean]

theorem asCount_eq_some {v : Value} {n : Nat} :
    asCount v = some n ↔ v = .integer n ∧ n < 2 ^ 64 := by
  have hmax : Word.max64 + 1 = 2 ^ 64 := rfl
  cases v with
  | integer i =>
    simp only [asCount, Option.ite_none_right_eq_some, Option.some.injEq, Value.integer.injEq]
    omega
  | _ => simp [asCount]

/-- The entries of a table of strings, as values. -/
def stringEntries (strings : List (String × String)) : Table :=
  strings.map fun e => (e.1, .string e.2)

theorem mapM_stringEntries (strings : List (String × String)) :
    ((stringEntries strings).mapM fun e => (asString e.2).map (e.1, ·)) = some strings := by
  induction strings with
  | nil => rfl
  | cons s strings ih =>
    rw [stringEntries, List.map_cons, List.mapM_cons]
    show ((stringEntries strings).mapM _ >>= fun rest => some (s :: rest)) = _
    rw [ih]
    rfl

/-- One value that is no string spoils the table. -/
theorem mapM_asString_eq_some {entries : Table} {strings : List (String × String)} :
    (entries.mapM fun e => (asString e.2).map (e.1, ·)) = some strings ↔
      entries = stringEntries strings := by
  constructor
  · intro h
    induction entries generalizing strings with
    | nil =>
      cases h
      rfl
    | cons e entries ih =>
      rw [List.mapM_cons] at h
      simp only [Option.bind_eq_bind, Option.bind_eq_some_iff, Option.map_eq_some_iff,
        asString_eq_some, Option.pure_def, Option.some.injEq] at h
      obtain ⟨_, ⟨text, htext, rfl⟩, rest, hrest, rfl⟩ := h
      rw [ih hrest, stringEntries, stringEntries, List.map_cons, ← htext]
  · rintro rfl
    exact mapM_stringEntries strings

theorem asStrings_eq_some {v : Value} (hdate : ∀ d, v ≠ .dateTime d)
    {strings : List (String × String)} :
    asStrings v = some strings ↔ v = .table (stringEntries strings) := by
  cases v with
  | table entries =>
    rw [Value.table.injEq]
    exact mapM_asString_eq_some
  | dateTime d => exact absurd rfl (hdate d)
  | _ => simp [asStrings]

theorem isStrings_iff {v : Value} :
    IsStrings v ↔ ∃ strings, v = .table (stringEntries strings) := by
  constructor
  · rintro ⟨entries, rfl, hall⟩
    induction entries with
    | nil => exact ⟨[], rfl⟩
    | cons e entries ih =>
      obtain ⟨key, v⟩ := e
      obtain ⟨⟨text, rfl⟩, hrest⟩ := List.forall_mem_cons.mp hall
      obtain ⟨strings, hstrings⟩ := ih hrest
      cases hstrings
      exact ⟨(key, text) :: strings, rfl⟩
  · rintro ⟨strings, rfl⟩
    refine ⟨_, rfl, fun e he => ?_⟩
    obtain ⟨s, -, rfl⟩ := List.mem_map.mp he
    exact ⟨s.2, rfl⟩

/-! ## Keys -/

section Keys

variable {α : Type} {read : Value → Option α} {table : Table} {key : String} {x : Option α}

/-- A key can be read if what stands under it can. -/
theorem exists_field_iff (hd : DistinctKeys table) :
    (∃ x, field read table key = some x) ↔ ∀ v, (key, v) ∈ table → ∃ a, read v = some a := by
  simp only [← Toml.lookup_eq_some_iff hd]
  unfold field
  cases table.lookup key with
  | none => simp
  | some v => simp

theorem field_eq_some (hd : DistinctKeys table) (h : field read table key = some x) (a : α) :
    x = some a ↔ ∃ v, (key, v) ∈ table ∧ read v = some a := by
  simp only [← Toml.lookup_eq_some_iff hd]
  unfold field at h
  cases hlookup : table.lookup key with
  | none =>
    rw [hlookup] at h
    cases h
    simp
  | some v =>
    rw [hlookup] at h
    obtain ⟨b, hb, rfl⟩ := Option.map_eq_some_iff.mp h
    simp [hb]

theorem string_eq_some {x : Option String} (hd : DistinctKeys table)
    (h : field asString table key = some x) (text : String) :
    x = some text ↔ (key, .string text) ∈ table := by
  rw [field_eq_some hd h]
  simp only [asString_eq_some]
  constructor
  · rintro ⟨v, hv, rfl⟩
    exact hv
  · intro hv
    exact ⟨_, hv, rfl⟩

theorem path_eq_some {x : Option String} (hd : DistinctKeys table)
    (h : field asString table key = some x) (p : Path) :
    x.map Path.mk = some p ↔ (key, .string p.text) ∈ table := by
  rw [← string_eq_some hd h, Option.map_eq_some_iff]
  constructor
  · rintro ⟨text, hx, rfl⟩
    exact hx
  · intro hx
    exact ⟨p.text, hx, rfl⟩

end Keys

/-! ## Tables -/

section Tables

variable {path : Path} {table table' : Table} {config : Config}

/-- Each field of the config is read under its key. -/
structure ReadFrom (path : Path) (table : Table) (config : Config) : Prop where
  sessionFile : ∃ x, field asString table "session_file" = some x ∧
    config.sessionFile = x.map Path.mk
  account : field asString table "account" = some config.account
  outputDir : ∃ x, field asString table "output_dir" = some x ∧ config.outputDir = x.map Path.mk
  timezone : field asString table "timezone" = some config.timezone
  baseUrl : field asString table "base_url" = some config.baseUrl
  userAgent : field asString table "user_agent" = some config.userAgent
  retries : field asCount table "retries" = some config.retries
  verbose : ∃ x, field asBoolean table "verbose" = some x ∧ config.verbose = x.getD false
  accounts : ∃ x, field asStrings table "accounts" = some x ∧ config.accounts = x.getD []
  loadedFrom : config.loadedFrom = some path

theorem readFrom_of_ofTable (h : ofTable path table = some config) : ReadFrom path table config := by
  simp only [ofTable, Option.bind_eq_bind, Option.bind_eq_some_iff, Option.some.injEq] at h
  obtain ⟨sessionFile, hsessionFile, account, haccount, outputDir, houtputDir, timezone, htimezone,
    baseUrl, hbaseUrl, userAgent, huserAgent, retries, hretries, verbose, hverbose, accounts,
    haccounts, rfl⟩ := h
  exact ⟨⟨_, hsessionFile, rfl⟩, haccount, ⟨_, houtputDir, rfl⟩, htimezone, hbaseUrl, huserAgent,
    hretries, ⟨_, hverbose, rfl⟩, ⟨_, haccounts, rfl⟩, rfl⟩

theorem exists_ofTable (path : Path) (hd : DistinctKeys table) (h : WellTyped table) :
    ∃ config, ofTable path table = some config := by
  have hstring : ∀ key ∈ stringKeys, ∃ x, field asString table key = some x := by
    intro key hkey
    refine (exists_field_iff hd).mpr fun v hv => ?_
    obtain ⟨text, rfl⟩ := h.strings key hkey v hv
    exact ⟨text, rfl⟩
  obtain ⟨sessionFile, hsessionFile⟩ := hstring "session_file" (by simp [stringKeys])
  obtain ⟨account, haccount⟩ := hstring "account" (by simp [stringKeys])
  obtain ⟨outputDir, houtputDir⟩ := hstring "output_dir" (by simp [stringKeys])
  obtain ⟨timezone, htimezone⟩ := hstring "timezone" (by simp [stringKeys])
  obtain ⟨baseUrl, hbaseUrl⟩ := hstring "base_url" (by simp [stringKeys])
  obtain ⟨userAgent, huserAgent⟩ := hstring "user_agent" (by simp [stringKeys])
  obtain ⟨retries, hretries⟩ : ∃ x, field asCount table "retries" = some x := by
    refine (exists_field_iff hd).mpr fun v hv => ?_
    obtain ⟨n, hn⟩ := h.retries v hv
    exact ⟨n, asCount_eq_some.mpr hn⟩
  obtain ⟨verbose, hverbose⟩ : ∃ x, field asBoolean table "verbose" = some x := by
    refine (exists_field_iff hd).mpr fun v hv => ?_
    obtain ⟨b, rfl⟩ := h.verbose v hv
    exact ⟨b, rfl⟩
  obtain ⟨accounts, haccounts⟩ : ∃ x, field asStrings table "accounts" = some x := by
    refine (exists_field_iff hd).mpr fun v hv => ?_
    obtain ⟨strings, rfl⟩ := isStrings_iff.mp (h.accounts v hv)
    exact ⟨strings, mapM_stringEntries strings⟩
  simp only [ofTable, hsessionFile, haccount, houtputDir, htimezone, hbaseUrl, huserAgent, hretries,
    hverbose, haccounts]
  exact ⟨_, rfl⟩

theorem ne_dateTime (hdate : ∀ d, ("accounts", .dateTime d) ∉ table) {v : Value}
    (hv : ("accounts", v) ∈ table) (d : Toml.DateTime) : v ≠ .dateTime d := by
  rintro rfl
  exact hdate d hv

theorem ReadFrom.wellTyped (h : ReadFrom path table config) (hd : DistinctKeys table)
    (hdate : ∀ d, ("accounts", .dateTime d) ∉ table) : WellTyped table where
  strings key hkey v hv := by
    have hfield : ∃ x, field asString table key = some x := by
      simp only [stringKeys, List.mem_cons, List.not_mem_nil, or_false] at hkey
      rcases hkey with rfl | rfl | rfl | rfl | rfl | rfl
      · exact h.sessionFile.imp fun _ => And.left
      · exact ⟨_, h.account⟩
      · exact h.outputDir.imp fun _ => And.left
      · exact ⟨_, h.timezone⟩
      · exact ⟨_, h.baseUrl⟩
      · exact ⟨_, h.userAgent⟩
    obtain ⟨text, htext⟩ := (exists_field_iff hd).mp hfield v hv
    exact ⟨text, asString_eq_some.mp htext⟩
  retries v hv := by
    obtain ⟨n, hn⟩ := (exists_field_iff hd).mp ⟨_, h.retries⟩ v hv
    exact ⟨n, asCount_eq_some.mp hn⟩
  verbose v hv := by
    obtain ⟨b, hb⟩ := (exists_field_iff hd).mp (h.verbose.imp fun _ => And.left) v hv
    exact ⟨b, asBoolean_eq_some.mp hb⟩
  accounts v hv := by
    obtain ⟨strings, hs⟩ := (exists_field_iff hd).mp (h.accounts.imp fun _ => And.left) v hv
    exact isStrings_iff.mpr ⟨strings, (asStrings_eq_some (ne_dateTime hdate hv)).mp hs⟩

theorem mem_stringEntries {strings : List (String × String)} {label token : String} :
    (label, .string token) ∈ stringEntries strings ↔ (label, token) ∈ strings := by
  simp [stringEntries]

theorem distinctKeys_stringEntries {strings : List (String × String)} :
    DistinctKeys (stringEntries strings) ↔ DistinctKeys strings := by
  unfold DistinctKeys stringEntries
  rw [List.map_map]
  rfl

/-- Accounts that are read are a table of strings, and where none are read there is nothing. -/
theorem accounts_cases {x : Option (List (String × String))} (hd : DistinctKeys table)
    (hdate : ∀ d, ("accounts", .dateTime d) ∉ table) (h : field asStrings table "accounts" = some x) :
    (x = none ∧ ∀ v, ("accounts", v) ∉ table) ∨
      ∃ strings, x = some strings ∧ ("accounts", .table (stringEntries strings)) ∈ table := by
  have hread := (exists_field_iff hd).mp ⟨x, h⟩
  cases x with
  | none =>
    refine .inl ⟨rfl, fun v hv => ?_⟩
    obtain ⟨strings, hs⟩ := hread v hv
    exact nomatch (field_eq_some hd h strings).mpr ⟨v, hv, hs⟩
  | some strings =>
    obtain ⟨v, hv, hs⟩ := (field_eq_some hd h strings).mp rfl
    rw [(asStrings_eq_some (ne_dateTime hdate hv)).mp hs] at hv
    exact .inr ⟨strings, rfl, hv⟩

theorem ReadFrom.describes (h : ReadFrom path table config) (hu : (Value.table table).Unambiguous)
    (hdate : ∀ d, ("accounts", .dateTime d) ∉ table) : Describes path table config := by
  have hd := hu.distinct
  obtain ⟨sessionFile, hsessionFile, hpath⟩ := h.sessionFile
  obtain ⟨outputDir, houtputDir, hpath'⟩ := h.outputDir
  obtain ⟨verbose, hverbose, hflag⟩ := h.verbose
  obtain ⟨accounts, haccounts, hentries⟩ := h.accounts
  have hcases := accounts_cases hd hdate haccounts
  refine ⟨fun p => ?_, string_eq_some hd h.account, fun p => ?_, string_eq_some hd h.timezone,
    string_eq_some hd h.baseUrl, string_eq_some hd h.userAgent, fun n => ?_, ?_, fun label token => ?_,
    ?_, h.loadedFrom⟩
  · rw [hpath]
    exact path_eq_some hd hsessionFile p
  · rw [hpath']
    exact path_eq_some hd houtputDir p
  · rw [field_eq_some hd h.retries n]
    constructor
    · rintro ⟨v, hv, hn⟩
      rwa [(asCount_eq_some.mp hn).1] at hv
    · intro hv
      obtain ⟨m, hm⟩ := (exists_field_iff hd).mp ⟨_, h.retries⟩ _ hv
      have hnm := (asCount_eq_some.mp hm).1
      rw [Value.integer.injEq, Int.natCast_inj] at hnm
      exact ⟨_, hv, hnm ▸ hm⟩
  · have htrue : verbose.getD false = true ↔ verbose = some true := by
      cases verbose <;> simp
    rw [hflag, htrue, field_eq_some hd hverbose true]
    simp only [asBoolean_eq_some]
    constructor
    · rintro ⟨v, hv, rfl⟩
      exact hv
    · exact fun hv => ⟨_, hv, rfl⟩
  · rw [hentries]
    rcases hcases with ⟨rfl, hnone⟩ | ⟨strings, rfl, hv⟩
    · constructor
      · exact nofun
      · rintro ⟨entries, hentries, -⟩
        exact absurd hentries (hnone _)
    · rw [Option.getD_some, ← mem_stringEntries]
      constructor
      · exact fun hmem => ⟨_, hv, hmem⟩
      · rintro ⟨entries, hentries, hmem⟩
        -- there is one value under the key
        have hsame := ((Toml.lookup_eq_some_iff hd).mpr hentries).symm.trans
          ((Toml.lookup_eq_some_iff hd).mpr hv)
        cases hsame
        exact hmem
  · rw [hentries]
    rcases hcases with ⟨rfl, hnone⟩ | ⟨strings, rfl, hv⟩
    · exact List.nodup_nil
    · exact distinctKeys_stringEntries.mp (hu.of_mem hv).distinct

/-- Only the known keys are looked at. -/
theorem ofTable_of_same (hd : DistinctKeys table) (hd' : DistinctKeys table')
    (h : ∀ key ∈ knownKeys, ∀ v, (key, v) ∈ table' ↔ (key, v) ∈ table) (path : Path) :
    ofTable path table' = ofTable path table := by
  have hlookup : ∀ key ∈ knownKeys, table'.lookup key = table.lookup key := by
    intro key hkey
    apply Option.ext
    intro v
    rw [Toml.lookup_eq_some_iff hd', Toml.lookup_eq_some_iff hd]
    exact h key hkey v
  have hfield : ∀ key ∈ knownKeys, ∀ {α : Type} (read : Value → Option α),
      field read table' key = field read table key := by
    intro key hkey α read
    unfold field
    rw [hlookup key hkey]
  simp only [knownKeys, stringKeys, List.cons_append, List.nil_append, List.forall_mem_cons] at hfield
  obtain ⟨hsessionFile, haccount, houtputDir, htimezone, hbaseUrl, huserAgent, hretries, hverbose,
    haccounts, -⟩ := hfield
  unfold ofTable
  rw [hsessionFile, haccount, houtputDir, htimezone, hbaseUrl, huserAgent, hretries, hverbose,
    haccounts]

end Tables

/-- What becomes of a document that is a table. -/
structure ByType (path : Path) (text : String) (table : Table) : Prop where
  /-- It is a config if the known keys have their types. -/
  accepted : (∃ config, parse? path text = some config) ↔ WellTyped table
  described : ∀ config, parse? path text = some config → Describes path table config
  /-- Another document with the same under the known keys is the same config, or none as well. -/
  others : ∀ text' table', Toml.parse? text' = some table' →
    (∀ key ∈ knownKeys, ∀ v, (key, v) ∈ table' ↔ (key, v) ∈ table) →
    parse? path text' = parse? path text

/-- The types of the known keys decide whether a document is a config, and which. -/
theorem parse?_by_type {text : String} {table : Table} (h : Toml.parse? text = some table)
    (hdate : ∀ d, ("accounts", .dateTime d) ∉ table) (path : Path) : ByType path text table := by
  have hu := Toml.parse?_unambiguous h
  have hparse : ∀ {text table}, Toml.parse? text = some table →
      parse? path text = ofTable path table := by
    intro text table h
    rw [parse?, h, Option.bind_some]
  have hread : ∀ {config}, parse? path text = some config → ReadFrom path table config := by
    intro config hconfig
    rw [hparse h] at hconfig
    exact readFrom_of_ofTable hconfig
  refine ⟨⟨?_, fun htypes => ?_⟩, fun config hconfig => ?_, fun text' table' h' hsame => ?_⟩
  · rintro ⟨config, hconfig⟩
    exact (hread hconfig).wellTyped hu.distinct hdate
  · rw [hparse h]
    exact exists_ofTable path hu.distinct htypes
  · exact (hread hconfig).describes hu hdate
  · rw [hparse h, hparse h']
    exact ofTable_of_same hu.distinct (Toml.parse?_unambiguous h').distinct hsame path

/-- A document with a key `loaded_from` and a value of another type under it. -/
def strayKey : String := "loaded_from = [1, {x = 2}]\nretries = 18446744073709551615\naccounts.a = 't'"

def isDateTime : Value → Bool
  | .dateTime _ => true
  | _ => false

/-- The stray key is not heard of again. -/
theorem parse?_by_type_strayKey :
    ∃ table, Toml.parse? strayKey = some table ∧ (∀ d, ("accounts", .dateTime d) ∉ table) ∧
      ByType ⟨"config.toml"⟩ strayKey table ∧
      parse? ⟨"config.toml"⟩ strayKey =
        some { retries := some 18446744073709551615, accounts := [("a", "t")]
               loadedFrom := some ⟨"config.toml"⟩ } := by
  have hcheck : ((Toml.parse? strayKey).any fun table => table.all fun e => !isDateTime e.2) =
      true := by decide +kernel
  cases htable : Toml.parse? strayKey with
  | none =>
    rw [htable] at hcheck
    cases hcheck
  | some table =>
    rw [htable, Option.any_some] at hcheck
    have hdate : ∀ d, ("accounts", .dateTime d) ∉ table := by
      intro d hd
      cases List.all_eq_true.mp hcheck _ hd
    exact ⟨table, rfl, hdate, parse?_by_type htable hdate _, by decide +kernel⟩

-- one account that is no string spoils the document
example : parse? ⟨"c"⟩ "verbose = true\naccounts.a = 1" = none := by
  decide +kernel

end PuzzleInputs.Config
