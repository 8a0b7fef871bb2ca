import Mathlib
import PuzzleInputs.CommandLine.Spelling
import PuzzleInputs.Proofs.Credential
import PuzzleInputs.Proofs.Decimal

/-!
# Tokens of a command line

What each kind of token does to the reader: a word, an option with its value attached or awaited, a
switch. Values are taken as they are, whatever characters they hold. A year and a number of retries are
the number that is written, if it is in range, and are refused otherwise (`read_numbers_exactly`).
-/

namespace PuzzleInputs.CommandLine

open Decimal (IsSigned IsUnsigned)

/-! ## Values -/

theorem readYear_eq_ok {text : String} {setting : Setting} :
    readYear text = .ok setting ↔
      ∃ n, IsSigned text n ∧ minYear ≤ n ∧ n ≤ maxYear ∧ setting = .year n := by
  constructor
  · intro h
    unfold readYear at h
    split at h
    · cases h
    · next n hread =>
      split at h
      · next hrange =>
        cases h
        exact ⟨n, (Decimal.readInt_eq_ok.mp hread).1, hrange.1, hrange.2, rfl⟩
      · cases h
  · rintro ⟨n, hsigned, hmin, hmax, rfl⟩
    -- every year in range is in that of the reader before it
    have hread : Decimal.readInt Word.maxSigned64 text = .ok n := by
      refine Decimal.readInt_eq_ok.mpr ⟨hsigned, ?_, ?_⟩
      · unfold minYear at hmin
        unfold Word.maxSigned64
        omega
      · unfold maxYear at hmax
        unfold Word.maxSigned64
        omega
    simp only [readYear, hread, hmin, hmax, and_self, if_true]

theorem readRetries_eq_ok {text : String} {setting : Setting} :
    readValue .retries text = .ok setting ↔
      ∃ n, IsUnsigned text n ∧ n ≤ Word.max64 ∧ setting = .retries n := by
  constructor
  · intro h
    simp only [readValue] at h
    split at h
    · cases h
    · next n hread =>
      cases h
      obtain ⟨hunsigned, hle⟩ := Decimal.readNat_eq_ok.mp hread
      exact ⟨n, hunsigned, hle, rfl⟩
  · rintro ⟨n, hunsigned, hle, rfl⟩
    simp only [readValue, Decimal.readNat_eq_ok.mpr ⟨hunsigned, hle⟩]

/-- What is read for an option is an item of that option. -/
theorem key_of_readValue {o : Valued} {text : String} {setting : Setting}
    (h : readValue o text = .ok setting) : setting.key = .valued o := by
  cases o with
  | sessionFile =>
    simp only [readValue] at h
    split at h
    · cases h
    · cases h
      rfl
  | outputDir =>
    simp only [readValue] at h
    split at h
    · cases h
    · cases h
      rfl
  | retries =>
    obtain ⟨n, -, -, rfl⟩ := readRetries_eq_ok.mp h
    rfl
  | account => cases h; rfl
  | timezone => cases h; rfl
  | baseUrl => cases h; rfl
  | userAgent => cases h; rfl

/-! ## One token -/

/-- A name is not empty, has no equals sign in it, and stands for what it is the name of. -/
theorem Dashed.name_proper (d : Dashed) :
    d.name.toList ≠ [] ∧ '=' ∉ d.name.toList ∧ ofName? d.name = some d := by
  cases d with
  | valued o => cases o <;> decide +kernel
  | switch f => cases f <;> decide +kernel
  | notice n => cases n <;> decide +kernel

theorem complete_eq {done : List Setting} {key : Key} (h : ∀ x ∈ done, x.key ≠ key)
    (setting : Setting) : complete done key (.ok setting) = .ok (done ++ [setting]) := by
  have hnew : done.any (·.key == key) = false := by simpa using h
  rw [complete, hnew]
  rfl

namespace State

variable {s : State} {done : List Setting}

/-- With the pending item completed, the reader has a year if one is among its items. -/
theorem hasYear_eq (h : s.flush = .ok done) : s.hasYear = done.any (·.key == .year) := by
  unfold flush at h
  unfold hasYear
  split at h
  · next hp =>
    rw [hp]
    cases h
    rfl
  · cases h
  · next o text hp =>
    rw [hp]
    unfold complete at h
    split at h
    · cases h
    · cases hread : readValue o text with
      | error e => rw [hread] at h; cases h
      | ok setting =>
        rw [hread] at h
        cases h
        simp [key_of_readValue hread]
  · next text hp =>
    rw [hp]
    unfold complete at h
    split at h
    · cases h
    · cases hread : readYear text with
      | error e => rw [hread] at h; cases h
      | ok setting =>
        rw [hread] at h
        cases h
        obtain ⟨n, -, -, -, rfl⟩ := readYear_eq_ok.mp hread
        simp [Setting.key]

/-- A first year is taken as it is, and read later. -/
theorem takeYear_eq (h : s.flush = .ok done) (hnew : ∀ x ∈ done, x.key ≠ .year) (token : String) :
    s.takeYear token = .ok { s with done, pending := .year token } := by
  have hyear : s.hasYear = false := by
    rw [hasYear_eq h]
    simpa using hnew
  rw [takeYear, hyear, h]
  rfl

theorem takeOption_eq (h : s.flush = .ok done) (o : Valued) :
    s.takeOption o = .ok { s with done, pending := .awaiting o } := by
  rw [takeOption, h]
  rfl

theorem takeAttached_eq (h : s.flush = .ok done) {o : Valued} (hnew : ∀ x ∈ done, x.key ≠ .valued o)
    {text : String} {setting : Setting} (hread : readValue o text = .ok setting) :
    s.takeAttached o text = .ok { s with done := done ++ [setting], pending := .nothing } := by
  rw [takeAttached, h, hread]
  show (complete done _ _ >>= _) = _
  rw [complete_eq hnew]
  rfl

theorem takeSwitch_eq (h : s.flush = .ok done) {f : Switch} (hnew : ∀ x ∈ done, x.key ≠ .switch f) :
    s.takeSwitch f = .ok { s with done := done ++ [.switch f], pending := .nothing } := by
  rw [takeSwitch, h]
  show (complete done _ _ >>= _) = _
  rw [complete_eq hnew]
  rfl

/-- A word is what cannot be taken for an option. -/
theorem take_word (hs : s.literal = false) {token : String}
    (h : token = "-" ∨ token.toList.head? ≠ some '-') : s.take token = s.takeWord token := by
  rw [take, hs, if_neg Bool.false_ne_true]
  split
  · next htoken => exact absurd h (by simp [← String.toList_inj, htoken])
  · next htoken => exact absurd h (by simp [← String.toList_inj, htoken])
  · next htoken => exact absurd h (by simp [← String.toList_inj, htoken])
  · rfl

theorem take_long (hs : s.literal = false) {token : String} {body : List Char}
    (h : token.toList = '-' :: '-' :: body) (hbody : body ≠ []) : s.take token = s.takeLong body := by
  obtain ⟨c, rest, rfl⟩ := List.exists_cons_of_ne_nil hbody
  simp only [take, hs, h, Bool.false_eq_true, if_false]

theorem take_option (hs : s.literal = false) (o : Valued) :
    s.take ("--" ++ o.name) = s.takeOption o := by
  obtain ⟨hnonempty, hequals, hname⟩ := Dashed.name_proper (.valued o)
  rw [take_long hs (String.toList_append ..) hnonempty, takeLong, cutAt_of_notMem hequals]
  simp only [String.ofList_toList, hname, Option.map_none]

theorem take_switch (hs : s.literal = false) (f : Switch) :
    s.take ("--" ++ f.name) = s.takeSwitch f := by
  obtain ⟨hnonempty, hequals, hname⟩ := Dashed.name_proper (.switch f)
  rw [take_long hs (String.toList_append ..) hnonempty, takeLong, cutAt_of_notMem hequals]
  simp only [String.ofList_toList, hname, Option.map_none]

/-- The value begins behind the first equals sign. -/
theorem take_attached (hs : s.literal = false) (o : Valued) (text : String) :
    s.take ("--" ++ o.name ++ "=" ++ text) = s.takeAttached o text := by
  obtain ⟨hnonempty, hequals, hname⟩ := Dashed.name_proper (.valued o)
  have htoken : ("--" ++ o.name ++ "=" ++ text).toList =
      '-' :: '-' :: ((Dashed.valued o).name.toList ++ '=' :: text.toList) := by
    simp [Dashed.name]
  rw [take_long hs htoken (by simp), takeLong, cutAt_append_sep hequals]
  simp only [String.ofList_toList, hname, Option.map_some]

/-- A letter with nothing behind it is short for a name. -/
theorem take_letter (hs : s.literal = false) (f : Switch) : s.take f.letter = s.takeSwitch f := by
  have hletters : ∀ c, Dashed.ofLetter? c = some (.switch f) →
      s.takeLetters [c] = s.takeSwitch f := by
    intro c hc
    simp only [takeLetters, hc]
    cases s.takeSwitch f <;> rfl
  cases f with
  | verbose =>
    rw [← hletters 'v' rfl, take, hs]
    rfl
  | quiet =>
    rw [← hletters 'q' rfl, take, hs]
    rfl

theorem take_letter_outputDir (hs : s.literal = false) :
    s.take "-o" = s.takeOption .outputDir := by
  rw [take, hs]
  rfl

end State

/-! ## Numbers on a command line -/

theorem read_literal (v : String) :
    read ["--", v] =
      (readYear v >>= fun x => checkCredential [x] >>= fun _ => assemble [x]) := by
  have htokens : ["--", v].foldlM State.take {} = .ok { pending := .year v, literal := true } := rfl
  rw [read, htokens]
  show (complete [] .year (readYear v) >>= _) = _
  cases readYear v <;> rfl

theorem read_retries (v : String) :
    read ["2019", "--retries=" ++ v] =
      (readValue .retries v >>= fun x =>
        checkCredential [.year 2019, x] >>= fun _ => assemble [.year 2019, x]) := by
  let s : State := { pending := .year "2019" }
  have hyear : State.take {} "2019" = .ok s := rfl
  have hflush : s.flush = .ok [.year 2019] := by decide +kernel
  have hattached : s.take ("--retries=" ++ v) = s.takeAttached .retries v :=
    State.take_attached rfl .retries v
  have hread : read ["2019", "--retries=" ++ v] =
      (s.takeAttached .retries v >>= fun s' => s'.flush >>= fun done =>
        checkCredential done >>= fun _ => assemble done) := by
    simp only [read, List.foldlM_cons, List.foldlM_nil, hyear, bind, Except.bind, hattached]
    cases s.takeAttached .retries v <;> rfl
  rw [hread, State.takeAttached, hflush]
  cases readValue .retries v <;> rfl

theorem read_literal_iff {v : String} {args : Arguments} :
    read ["--", v] = .ok args ↔
      ∃ n : Int, IsSigned v n ∧ -2 ^ 31 ≤ n ∧ n ≤ 2 ^ 31 - 1 ∧ args = { year := n } := by
  rw [read_literal]
  constructor
  · intro h
    cases hyear : readYear v with
    | error e =>
      rw [hyear] at h
      cases h
    | ok x =>
      obtain ⟨n, hsigned, hmin, hmax, rfl⟩ := readYear_eq_ok.mp hyear
      rw [hyear] at h
      cases h
      exact ⟨n, hsigned, hmin, hmax, rfl⟩
  · rintro ⟨n, hsigned, hmin, hmax, rfl⟩
    rw [readYear_eq_ok.mpr ⟨n, hsigned, hmin, hmax, rfl⟩]
    rfl

theorem read_retries_iff {v : String} {args : Arguments} :
    read ["2019", "--retries=" ++ v] = .ok args ↔
      ∃ n : Nat, IsUnsigned v n ∧ n ≤ 2 ^ 64 - 1 ∧
        args = { year := 2019, retries := some n } := by
  rw [read_retries]
  constructor
  · intro h
    cases hvalue : readValue .retries v with
    | error e =>
      rw [hvalue] at h
      cases h
    | ok x =>
      obtain ⟨n, hunsigned, hmax, rfl⟩ := readRetries_eq_ok.mp hvalue
      rw [hvalue] at h
      cases h
      exact ⟨n, hunsigned, hmax, rfl⟩
  · rintro ⟨n, hunsigned, hmax, rfl⟩
    rw [readRetries_eq_ok.mpr ⟨n, hunsigned, hmax, rfl⟩]
    rfl

/-- What fails to be read gives a usage message. -/
theorem exists_error {α : Type} {x : Except Usage α} (h : ∀ a, x ≠ .ok a) :
    ∃ usage, x = .error usage := by
  cases x with
  | error usage => exact ⟨usage, rfl⟩
  | ok a => exact absurd rfl (h a)

/-- The year and the number of retries are the numbers that `v` stands for. -/
structure ReadsExactly (v : String) : Prop where
  year : ∀ args, read ["--", v] = .ok args ↔
    ∃ n : Int, IsSigned v n ∧ -2 ^ 31 ≤ n ∧ n ≤ 2 ^ 31 - 1 ∧ args = { year := n }
  /-- A year out of range is not taken for another one. -/
  yearBeyond : ∀ n : Int, IsSigned v n → ¬ (-2 ^ 31 ≤ n ∧ n ≤ 2 ^ 31 - 1) →
    ∃ usage, read ["--", v] = .error usage
  yearAgain : ∀ args, read ["--", v] = .ok args → read ["--", toString args.year] = .ok args
  retries : ∀ args, read ["2019", "--retries=" ++ v] = .ok args ↔
    ∃ n : Nat, IsUnsigned v n ∧ n ≤ 2 ^ 64 - 1 ∧ args = { year := 2019, retries := some n }
  retriesBeyond : ∀ n : Nat, IsUnsigned v n → ¬ n ≤ 2 ^ 64 - 1 →
    ∃ usage, read ["2019", "--retries=" ++ v] = .error usage
  retriesAgain : ∀ args n, read ["2019", "--retries=" ++ v] = .ok args → args.retries = some n →
    read ["2019", "--retries=" ++ toString n] = .ok args

/-- Numbers are read as they are written, or not at all, and can be written and read again. -/
theorem read_numbers_exactly (v : String) : ReadsExactly v where
  year _ := read_literal_iff
  yearBeyond n hn hbeyond := by
    refine exists_error fun args h => hbeyond ?_
    obtain ⟨n', hn', hmin, hmax, -⟩ := read_literal_iff.mp h
    cases hn.unique hn'
    exact ⟨hmin, hmax⟩
  yearAgain args h := by
    obtain ⟨n, -, hmin, hmax, rfl⟩ := read_literal_iff.mp h
    exact read_literal_iff.mpr ⟨n, Decimal.isSigned_toString n, hmin, hmax, rfl⟩
  retries _ := read_retries_iff
  retriesBeyond n hn hbeyond := by
    refine exists_error fun args h => hbeyond ?_
    obtain ⟨n', hn', hmax, -⟩ := read_retries_iff.mp h
    cases hn.unique hn'
    exact hmax
  retriesAgain args n h hretries := by
    obtain ⟨n', -, hmax, rfl⟩ := read_retries_iff.mp h
    cases hretries
    exact read_retries_iff.mpr ⟨n, Decimal.isUnsigned_toString n, hmax, rfl⟩

-- a number of more than 32 bits whose lowest 32 bits are a year, and zeros in front of another
example : (read ["--", "4294969315"]).toOption = none ∧
    (read ["--", "+0000000000000000000002019"]).toOption = some { year := 2019 } := by
  decide +kernel

end PuzzleInputs.CommandLine
