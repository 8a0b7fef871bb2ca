import Mathlib
import PuzzleInputs.Proofs.Program
import PuzzleInputs.Proofs.Toml.Keys

/-!
# Tokens of files and of accounts

`IsFirstLine text line` says what the first line of a text is: it has no line feed, and after it the
text is over or a line end begins. Every text has one first line, which is what a cookie file gives
(`load_file_first_line`).

The token of an account loses all line ends behind it, in whatever order they come
(`IsLineEndsOf`). So the same text can be a token by one way and another token, or none, by the other;
`load_from_both` says for which texts the two ways agree.
-/

namespace PuzzleInputs

/-! ## Cutting at a separator -/

section Cutting

variable {sep : Char} {cs before : List Char}

theorem bne_of_notMem (h : sep ∉ cs) : ∀ c ∈ cs, (c != sep) = true := by
  intro c hc
  rw [bne_iff_ne]
  rintro rfl
  exact h hc

theorem cutAt_of_notMem (h : sep ∉ cs) : cutAt sep cs = (cs, none) := by
  rw [cutAt, List.takeWhile_eq_self_iff.mpr (bne_of_notMem h),
    List.dropWhile_eq_nil_iff.mpr (bne_of_notMem h)]
  rfl

theorem cutAt_append_sep (h : sep ∉ before) (after : List Char) :
    cutAt sep (before ++ sep :: after) = (before, some after) := by
  rw [cutAt, List.takeWhile_append_of_pos (bne_of_notMem h),
    List.dropWhile_append_of_pos (bne_of_notMem h)]
  simp

end Cutting

/-! ## Bytes as text -/

section Bytes

variable {d : Disk} {path : Path} {bytes : ByteArray}

theorem isValidUTF8_iff : bytes.IsValidUTF8 ↔ ∃ text : String, bytes = text.toUTF8 := by
  constructor
  · intro h
    exact ⟨String.fromUTF8 bytes h, rfl⟩
  · rintro ⟨text, rfl⟩
    exact text.isValidUTF8

theorem Disk.readText_of_invalid (h : d.read path = .ok bytes) (hb : ¬ bytes.IsValidUTF8) :
    d.readText path = .error .invalidUtf8 := by
  have hdecode : String.fromUTF8? bytes = none := dif_neg hb
  simp only [Disk.readText, h, hdecode]

end Bytes

namespace Credential

variable {σ : Type} {path : Path} {text line : List Char}

/-! ## First lines -/

/-- `line` is the first line of `text`: the text ends there, or goes on with a carriage return and a
line feed, or with a line feed that no carriage return stands before. -/
structure IsFirstLine (text line : List Char) : Prop where
  noFeed : '\n' ∉ line
  ends : ∃ rest, text = line ++ rest ∧
    (rest = [] ∨ ['\r', '\n'] <+: rest ∨ (['\n'] <+: rest ∧ line.getLast? ≠ some '\r'))

/-- The first line is empty: nothing is there, or a line end comes first. -/
def StartsBlank (text : List Char) : Prop := text = [] ∨ ['\n'] <+: text ∨ ['\r', '\n'] <+: text

theorem firstLine_of_noFeed (h : '\n' ∉ line) : firstLine line = line := by
  rw [firstLine, cutAt_of_notMem h]

theorem firstLine_feed (h : '\n' ∉ line) (hlast : line.getLast? ≠ some '\r') (rest : List Char) :
    firstLine (line ++ '\n' :: rest) = line := by
  rw [firstLine, cutAt_append_sep h]
  exact if_neg hlast

theorem firstLine_return_feed (h : '\n' ∉ line) (rest : List Char) :
    firstLine (line ++ '\r' :: '\n' :: rest) = line := by
  have hcut : cutAt '\n' (line ++ '\r' :: '\n' :: rest) = (line ++ ['\r'], some rest) := by
    rw [List.append_cons]
    apply cutAt_append_sep
    simp [h]
  rw [firstLine, hcut]
  simp

theorem IsFirstLine.firstLine_eq (h : IsFirstLine text line) : firstLine text = line := by
  obtain ⟨rest, rfl, rfl | ⟨more, rfl⟩ | ⟨⟨more, rfl⟩, hlast⟩⟩ := h.ends
  · rw [List.append_nil]
    exact firstLine_of_noFeed h.noFeed
  · exact firstLine_return_feed h.noFeed more
  · exact firstLine_feed h.noFeed hlast more

theorem isFirstLine_firstLine (text : List Char) : IsFirstLine text (firstLine text) := by
  by_cases hfeed : '\n' ∈ text
  · obtain ⟨line, rest, rfl, hline⟩ := List.eq_append_cons_of_mem hfeed
    by_cases hlast : line.getLast? = some '\r'
    · -- the return belongs to the line end
      obtain ⟨init, rfl⟩ := List.getLast?_eq_some_iff.mp hlast
      have hinit : '\n' ∉ init := fun hm => hline (List.mem_append_left _ hm)
      rw [List.append_assoc, List.singleton_append, firstLine_return_feed hinit]
      exact ⟨hinit, '\r' :: '\n' :: rest, rfl, .inr (.inl ⟨rest, rfl⟩)⟩
    · rw [firstLine_feed hline hlast]
      exact ⟨hline, '\n' :: rest, rfl, .inr (.inr ⟨⟨rest, rfl⟩, hlast⟩)⟩
  · rw [firstLine_of_noFeed hfeed]
    exact ⟨hfeed, [], (List.append_nil text).symm, .inl rfl⟩

/-- A text has one first line. -/
theorem isFirstLine_iff : IsFirstLine text line ↔ firstLine text = line := by
  constructor
  · exact IsFirstLine.firstLine_eq
  · rintro rfl
    exact isFirstLine_firstLine text

theorem firstLine_eq_nil_iff : firstLine text = [] ↔ StartsBlank text := by
  rw [← isFirstLine_iff]
  constructor
  · rintro ⟨-, rest, rfl, hrest | hrest | ⟨hrest, -⟩⟩
    · exact .inl hrest
    · exact .inr (.inr hrest)
    · exact .inr (.inl hrest)
  · intro h
    refine ⟨List.not_mem_nil, text, rfl, ?_⟩
    rcases h with h | h | h
    · exact .inl h
    · exact .inr (.inr ⟨h, nofun⟩)
    · exact .inr (.inl h)

/-! ## Tokens -/

/-- The characters as a token, if there are any. -/
def tokenOr (empty : Failure) : List Char → Except Failure Credential
  | [] => .error empty
  | kept => .ok ⟨String.ofList kept⟩

theorem ofFile_eq (path : Path) (text : String) :
    ofFile path text = tokenOr (.credentialEmpty path) (firstLine text.toList) := by
  unfold ofFile tokenOr
  cases firstLine text.toList <;> rfl

theorem ofAccount_eq (label text : String) :
    ofAccount label text = tokenOr (.accountEmpty label) (dropTrailing isLineEnd text.toList) := by
  unfold ofAccount tokenOr
  cases dropTrailing isLineEnd text.toList <;> rfl

theorem tokenOr_eq_ok {empty : Failure} {kept : List Char} {c : Credential} :
    tokenOr empty kept = .ok c ↔ c.token ≠ "" ∧ kept = c.token.toList := by
  obtain ⟨token⟩ := c
  cases kept with
  | nil => simp [tokenOr]
  | cons ch kept =>
    constructor
    · intro h
      cases h
      exact ⟨by simp, by simp⟩
    · rintro ⟨-, h⟩
      show Except.ok (Credential.mk (String.ofList (ch :: kept))) = .ok ⟨token⟩
      rw [h, String.ofList_toList]

theorem tokenOr_eq_error {empty e : Failure} {kept : List Char} :
    tokenOr empty kept = .error e ↔ e = empty ∧ kept = [] := by
  cases kept with
  | nil => simp [tokenOr, eq_comm]
  | cons ch kept => simp [tokenOr]

/-! ## Tokens of files -/

/-- What comes of loading is what is stored. -/
theorem load_result (w : Machine σ) (accounts : List (String × String)) (source : Source) :
    ((load Machine.host accounts source).run w).1 = stored w.disk accounts source := by
  rw [Machine.host_eq_hostLogging, load_run]

theorem stored_file {d : Disk} {text : String} (h : d.read path = .ok text.toUTF8)
    (accounts : List (String × String)) :
    stored d accounts (.file path) = tokenOr (.credentialEmpty path) (firstLine text.toList) := by
  simp only [stored, Disk.readText_eq_ok.mpr h, ofFile_eq]

/-- What a cookie file with these bytes gives. -/
structure GivesFirstLine (path : Path) (bytes : ByteArray) (result : Except Failure Credential) :
    Prop where
  unreadable : ∀ cause, result = .error (.credentialUnreadable path cause) ↔
    cause = .invalidUtf8 ∧ ¬ bytes.IsValidUTF8
  empty : result = .error (.credentialEmpty path) ↔
    ∃ text : String, bytes = text.toUTF8 ∧ StartsBlank text.toList
  token : ∀ text : String, bytes = text.toUTF8 → ¬ StartsBlank text.toList →
    ∃ line : String, result = .ok ⟨line⟩ ∧ line ≠ "" ∧ IsFirstLine text.toList line.toList ∧
      ∀ line' : String, line' ≠ "" → IsFirstLine text.toList line'.toList → line' = line
  /-- Whatever line end there is, and whatever stands behind it. -/
  plain : ∀ line rest : String, line ≠ "" → '\n' ∉ line.toList → line.toList.getLast? ≠ some '\r' →
    bytes = line.toUTF8 ∨ bytes = (line ++ "\n" ++ rest).toUTF8 ∨
      bytes = (line ++ "\r\n" ++ rest).toUTF8 →
    result = .ok ⟨line⟩

theorem gives_of_invalid {bytes : ByteArray} (h : ¬ bytes.IsValidUTF8) (path : Path) :
    GivesFirstLine path bytes (.error (.credentialUnreadable path .invalidUtf8)) := by
  have hbytes : ∀ text : String, bytes ≠ text.toUTF8 := fun text he =>
    h (isValidUTF8_iff.mpr ⟨text, he⟩)
  refine ⟨fun cause => ?_, ?_, fun text he => absurd he (hbytes text),
    fun line rest _ _ _ he => ?_⟩
  · constructor
    · intro he
      cases he
      exact ⟨rfl, h⟩
    · rintro ⟨rfl, -⟩
      rfl
  · constructor
    · intro he
      cases he
    · rintro ⟨text, he, -⟩
      exact absurd he (hbytes text)
  · rcases he with he | he | he
    · exact absurd he (hbytes _)
    · exact absurd he (hbytes _)
    · exact absurd he (hbytes _)

theorem gives_of_text (path : Path) (text : String) :
    GivesFirstLine path text.toUTF8
      (tokenOr (.credentialEmpty path) (firstLine text.toList)) := by
  have hsame : ∀ text' : String, text.toUTF8 = text'.toUTF8 → text' = text := fun text' he =>
    (String.toByteArray_inj.mp he).symm
  have hline : ∀ line : String, line ≠ "" → IsFirstLine text.toList line.toList →
      tokenOr (.credentialEmpty path) (firstLine text.toList) = .ok ⟨line⟩ := fun line hne h =>
    tokenOr_eq_ok.mpr ⟨hne, h.firstLine_eq⟩
  refine ⟨fun cause => ?_, ?_, ?_, ?_⟩
  · rw [tokenOr_eq_error]
    constructor
    · rintro ⟨he, -⟩
      cases he
    · rintro ⟨-, hinvalid⟩
      exact absurd text.isValidUTF8 hinvalid
  · rw [tokenOr_eq_error, firstLine_eq_nil_iff]
    constructor
    · rintro ⟨-, hblank⟩
      exact ⟨text, rfl, hblank⟩
    · rintro ⟨text', he, hblank⟩
      exact ⟨rfl, hsame text' he ▸ hblank⟩
  · intro text' he hblank
    rw [hsame text' he] at hblank ⊢
    have hfirst : IsFirstLine text.toList (String.ofList (firstLine text.toList)).toList := by
      rw [String.toList_ofList]
      exact isFirstLine_firstLine text.toList
    have hne : String.ofList (firstLine text.toList) ≠ "" := by
      intro hempty
      rw [hempty] at hfirst
      exact hblank (firstLine_eq_nil_iff.mp hfirst.firstLine_eq)
    refine ⟨_, hline _ hne hfirst, hne, hfirst, fun line' _ h => ?_⟩
    exact String.toList_inj.mp (h.firstLine_eq.symm.trans hfirst.firstLine_eq)
  · intro line rest hne hfeed hlast he
    apply hline line hne
    rcases he with he | he | he
    · rw [← hsame _ he]
      exact ⟨hfeed, [], (List.append_nil _).symm, .inl rfl⟩
    · rw [← hsame _ he, String.append_assoc, String.toList_append]
      exact ⟨hfeed, _, rfl, .inr (.inr ⟨⟨rest.toList, by simp⟩, hlast⟩)⟩
    · rw [← hsame _ he, String.append_assoc, String.toList_append]
      exact ⟨hfeed, _, rfl, .inr (.inl ⟨rest.toList, by simp⟩)⟩

/-- A cookie file gives its first line, if the file is text and the line is not empty. -/
theorem load_file_first_line {w : Machine σ} {bytes : ByteArray} (h : w.disk.read path = .ok bytes)
    (accounts : List (String × String)) :
    GivesFirstLine path bytes ((load Machine.host accounts (.file path)).run w).1 := by
  rw [load_result]
  by_cases hvalid : bytes.IsValidUTF8
  · obtain ⟨text, rfl⟩ := isValidUTF8_iff.mp hvalid
    rw [stored_file h]
    exact gives_of_text path text
  · simp only [stored, Disk.readText_of_invalid h hvalid]
    exact gives_of_invalid hvalid path

/-- A machine whose cookie file has two returns at the end of its first line, and more lines. -/
def twoReturns : Machine Unit where
  disk :=
    { workingDirectory := ["home"]
      entries := [(["home"], .directory), (["home", "cookie"], .file "tok\r\r\nkot\n".toUTF8)] }
  clock := .epoch
  net := ()

theorem load_file_first_line_twoReturns :
    twoReturns.disk.read ⟨"cookie"⟩ = .ok "tok\r\r\nkot\n".toUTF8 ∧
      GivesFirstLine ⟨"cookie"⟩ "tok\r\r\nkot\n".toUTF8
        ((load Machine.host [] (.file ⟨"cookie"⟩)).run twoReturns).1 :=
  have hread : twoReturns.disk.read ⟨"cookie"⟩ = .ok "tok\r\r\nkot\n".toUTF8 := by rfl
  ⟨hread, load_file_first_line hread []⟩

-- only the return that the line feed follows is left out
example : ((load Machine.host [] (.file ⟨"cookie"⟩)).run twoReturns).1 = .ok ⟨"tok\r"⟩ := by
  decide +kernel

/-! ## Tokens of accounts -/

/-- `ends` are the line ends behind `text`: the longest tail that has nothing else in it. -/
structure IsLineEndsOf (text kept ends : List Char) : Prop where
  split : text = kept ++ ends
  only : ∀ c ∈ ends, c = '\r' ∨ c = '\n'
  longest : ∀ tail, tail <:+ text → (∀ c ∈ tail, c = '\r' ∨ c = '\n') → tail.length ≤ ends.length

theorem isLineEnd_iff {c : Char} : isLineEnd c = true ↔ c = '\r' ∨ c = '\n' := by
  simp [isLineEnd]

theorem isLineEndsOf_dropTrailing (text : List Char) :
    IsLineEndsOf text (dropTrailing isLineEnd text) (text.rtakeWhile isLineEnd) where
  split := List.rdropWhile_append_rtakeWhile.symm
  only c hc := isLineEnd_iff.mp (List.mem_rtakeWhile_imp hc)
  longest tail hsuffix hall := by
    obtain ⟨front, rfl⟩ := hsuffix
    have hrev : ∀ c ∈ tail.reverse, isLineEnd c = true := fun c hc =>
      isLineEnd_iff.mpr (hall c (List.mem_reverse.mp hc))
    have htake : (front ++ tail).rtakeWhile isLineEnd = front.rtakeWhile isLineEnd ++ tail := by
      unfold List.rtakeWhile
      rw [List.reverse_append, List.takeWhile_append_of_pos hrev, List.reverse_append,
        List.reverse_reverse]
    rw [htake, List.length_append]
    omega

namespace IsLineEndsOf

variable {kept ends : List Char}

theorem last_ne (h : IsLineEndsOf text kept ends) : kept.getLast? ≠ some '\r' := by
  intro hlast
  obtain ⟨init, rfl⟩ := List.getLast?_eq_some_iff.mp hlast
  have hsuffix : '\r' :: ends <:+ text := ⟨init, by rw [h.split, List.append_cons]⟩
  have hle := h.longest _ hsuffix (List.forall_mem_cons.mpr ⟨.inl rfl, h.only⟩)
  rw [List.length_cons] at hle
  omega

/-- When what is kept of an account is the first line of a file. -/
theorem isFirstLine_iff (h : IsLineEndsOf text kept ends) :
    IsFirstLine text kept ↔ '\n' ∉ kept ∧ (ends = [] ∨ ['\n'] <+: ends ∨ ['\r', '\n'] <+: ends) := by
  constructor
  · rintro ⟨hfeed, rest, hrest, hends⟩
    obtain rfl : ends = rest := List.append_cancel_left (h.split.symm.trans hrest)
    refine ⟨hfeed, ?_⟩
    rcases hends with hends | hends | ⟨hends, -⟩
    · exact .inl hends
    · exact .inr (.inr hends)
    · exact .inr (.inl hends)
  · rintro ⟨hfeed, hends⟩
    refine ⟨hfeed, ends, h.split, ?_⟩
    rcases hends with hends | hends | hends
    · exact .inl hends
    · exact .inr (.inr ⟨hends, h.last_ne⟩)
    · exact .inr (.inl hends)

end IsLineEndsOf

/-! ## Both ways -/

/-- The same token, or none because there is nothing. -/
def Agree (empty empty' : Failure) (result result' : Except Failure Credential) : Prop :=
  (∃ c, result = .ok c ∧ result' = .ok c) ∨ (result = .error empty ∧ result' = .error empty')

theorem agree_tokenOr {empty empty' : Failure} {kept kept' : List Char} :
    Agree empty empty' (tokenOr empty kept) (tokenOr empty' kept') ↔ kept = kept' := by
  constructor
  · rintro (⟨c, h, h'⟩ | ⟨h, h'⟩)
    · rw [(tokenOr_eq_ok.mp h).2, (tokenOr_eq_ok.mp h').2]
    · rw [(tokenOr_eq_error.mp h).2, (tokenOr_eq_error.mp h').2]
  · rintro rfl
    cases kept with
    | nil => exact .inr ⟨rfl, rfl⟩
    | cons ch kept => exact .inl ⟨_, rfl, rfl⟩

theorem stored_account {d : Disk} {accounts : List (String × String)} {label text : String}
    (h : accounts.lookup label = some text) :
    stored d accounts (.account label) =
      tokenOr (.accountEmpty label) (dropTrailing isLineEnd text.toList) := by
  simp only [stored, h, ofAccount_eq]

/-- What the two ways to a credential have in common, on a machine with these accounts. -/
structure BothWays (w : Machine σ) (accounts : List (String × String)) : Prop where
  /-- A text in a file and the same text under a label. -/
  agree : ∀ (path : Path) (label text : String),
    w.disk.read path = .ok text.toUTF8 → accounts.lookup label = some text →
    ∃ kept ends, IsLineEndsOf text.toList kept ends ∧
      (Agree (.credentialEmpty path) (.accountEmpty label)
          ((load Machine.host accounts (.file path)).run w).1
          ((load Machine.host accounts (.account label)).run w).1 ↔
        '\n' ∉ kept ∧ (ends = [] ∨ ['\n'] <+: ends ∨ ['\r', '\n'] <+: ends))
  nonempty : ∀ source c, ((load Machine.host accounts source).run w).1 = .ok c → c.token ≠ ""
  unknown : ∀ label other,
    ((load Machine.host accounts (.account label)).run w).1 = .error (.accountUnknown other) ↔
      other = label ∧ label ∉ accounts.map Prod.fst
  /-- A label with nothing but line ends is known. -/
  empty : ∀ label,
    ((load Machine.host accounts (.account label)).run w).1 = .error (.accountEmpty label) ↔
      ∃ text, accounts.lookup label = some text ∧ ∀ c ∈ text.toList, c = '\r' ∨ c = '\n'

theorem stored_ne_empty {d : Disk} {accounts : List (String × String)} {source : Source}
    {c : Credential} (h : stored d accounts source = .ok c) : c.token ≠ "" := by
  cases source with
  | file path =>
    cases hr : d.readText path with
    | error cause => simp [stored, hr] at h
    | ok text =>
      simp only [stored, hr, ofFile_eq] at h
      exact (tokenOr_eq_ok.mp h).1
  | account label =>
    cases hl : accounts.lookup label with
    | none => simp [stored, hl] at h
    | some text =>
      rw [stored_account hl] at h
      exact (tokenOr_eq_ok.mp h).1

theorem stored_unknown_iff {d : Disk} {accounts : List (String × String)} {label other : String} :
    stored d accounts (.account label) = .error (.accountUnknown other) ↔
      other = label ∧ label ∉ accounts.map Prod.fst := by
  rw [← Toml.lookup_eq_none_iff]
  cases hl : accounts.lookup label with
  | none => simp [stored, hl, eq_comm]
  | some text => simp [stored_account hl, tokenOr_eq_error]

theorem stored_empty_iff {d : Disk} {accounts : List (String × String)} {label : String} :
    stored d accounts (.account label) = .error (.accountEmpty label) ↔
      ∃ text, accounts.lookup label = some text ∧ ∀ c ∈ text.toList, c = '\r' ∨ c = '\n' := by
  cases hl : accounts.lookup label with
  | none => simp [stored, hl]
  | some text =>
    have hdrop : dropTrailing isLineEnd text.toList = [] ↔
        ∀ c ∈ text.toList, isLineEnd c = true := List.rdropWhile_eq_nil_iff
    simp [stored_account hl, tokenOr_eq_error, hdrop, isLineEnd_iff]

/-- The two ways agree on a text if there is no line feed in what an account keeps of it, and what
the account drops begins as a line end does. -/
theorem load_from_both (w : Machine σ) (accounts : List (String × String)) : BothWays w accounts := by
  refine ⟨fun path label text hfile haccount => ?_, fun source c h => ?_, fun label other => ?_,
    fun label => ?_⟩
  · have hends := isLineEndsOf_dropTrailing text.toList
    refine ⟨_, _, hends, ?_⟩
    rw [load_result, load_result, stored_file hfile, stored_account haccount, agree_tokenOr,
      ← Credential.isFirstLine_iff, hends.isFirstLine_iff]
  · rw [load_result] at h
    exact stored_ne_empty h
  · rw [load_result]
    exact stored_unknown_iff
  · rw [load_result]
    exact stored_empty_iff

/-- A text of two lines: the file gives a line of it, and the account all but the last line feed. -/
theorem load_from_both_twoReturns :
    let accounts := [("main", "tok\r\r\nkot\n")]
    twoReturns.disk.read ⟨"cookie"⟩ = .ok "tok\r\r\nkot\n".toUTF8 ∧
      accounts.lookup "main" = some "tok\r\r\nkot\n" ∧ BothWays twoReturns accounts ∧
      ((load Machine.host accounts (.account "main")).run twoReturns).1 = .ok ⟨"tok\r\r\nkot"⟩ :=
  ⟨by rfl, by rfl, load_from_both _ _, by decide +kernel⟩

end Credential

end PuzzleInputs
