import Mathlib
import PuzzleInputs.Proofs.Names
import PuzzleInputs.Zone

/-!
# Names of zones

What is written for a zone counts without the blanks at its two ends (`IsCoreOf`). It is the machine's
own zone if nothing is left or `local` is spelled, UTC if `utc` or `z` is spelled, each letter small or
capital (`Spells`), and otherwise it must be a name as it stands in the table. The names are written
with visible ASCII characters, and none but `UTC` spells one of the three words, so that every name is
read as the zone it belongs to (`parse_by_name`).
-/

namespace PuzzleInputs

/-! ## Blanks at the ends -/

/-- `core` is the text without the blanks at its two ends. -/
structure IsCoreOf (text core : String) : Prop where
  around : ∃ before after, text.toList = before ++ core.toList ++ after ∧
    (∀ c ∈ before, isBlank c = true) ∧ ∀ c ∈ after, isBlank c = true
  first : ∀ c, core.toList.head? = some c → isBlank c = false
  last : ∀ c, core.toList.getLast? = some c → isBlank c = false

section Trimming

variable {p : Char → Bool} {before core after : List Char}

theorem dropWhile_append_self (hafter : ∀ c ∈ after, p c = true)
    (hfirst : ∀ c, core.head? = some c → p c = false) :
    (core ++ after).dropWhile p = if core = [] then [] else core ++ after := by
  cases core with
  | nil => exact List.dropWhile_eq_nil_iff.mpr hafter
  | cons c core => exact List.dropWhile_cons_of_neg (by simp [hfirst c rfl])

theorem dropTrailing_append_self (hafter : ∀ c ∈ after, p c = true)
    (hlast : ∀ c, core.getLast? = some c → p c = false) : dropTrailing p (core ++ after) = core := by
  have hrev : ∀ c ∈ after.reverse, p c = true := fun c hc => hafter c (List.mem_reverse.mp hc)
  have hkeep : core.reverse.dropWhile p = core.reverse := by
    cases hcore : core.reverse with
    | nil => rfl
    | cons c rest =>
      have hc : core.getLast? = some c := by rw [← List.head?_reverse, hcore, List.head?_cons]
      exact List.dropWhile_cons_of_neg (by simp [hlast c hc])
  rw [dropTrailing, List.reverse_append, List.dropWhile_append_of_pos hrev, hkeep,
    List.reverse_reverse]

theorem dropTrailing_dropWhile (hbefore : ∀ c ∈ before, p c = true)
    (hafter : ∀ c ∈ after, p c = true) (hfirst : ∀ c, core.head? = some c → p c = false)
    (hlast : ∀ c, core.getLast? = some c → p c = false) :
    dropTrailing p ((before ++ core ++ after).dropWhile p) = core := by
  rw [List.append_assoc, List.dropWhile_append_of_pos hbefore, dropWhile_append_self hafter hfirst]
  split
  · next hnil =>
    rw [hnil]
    rfl
  · exact dropTrailing_append_self hafter hlast

theorem not_of_head?_dropWhile (cs : List Char) {c : Char} (h : (cs.dropWhile p).head? = some c) :
    p c = false := by
  have hnot := List.head?_dropWhile_not p cs
  rw [h] at hnot
  exact hnot

theorem isCoreOf_trimBlank (text : String) : IsCoreOf text (trimBlank text) := by
  have hcore : (trimBlank text).toList = (text.toList.dropWhile isBlank).rdropWhile isBlank :=
    String.toList_ofList
  have hkept : (trimBlank text).toList ++ (text.toList.dropWhile isBlank).rtakeWhile isBlank =
      text.toList.dropWhile isBlank := by
    rw [hcore, List.rdropWhile_append_rtakeWhile]
  have hsplit : text.toList = text.toList.takeWhile isBlank ++ (trimBlank text).toList ++
      (text.toList.dropWhile isBlank).rtakeWhile isBlank := by
    rw [List.append_assoc, hkept, List.takeWhile_append_dropWhile]
  refine ⟨⟨_, _, hsplit, fun c hc => List.mem_takeWhile_imp hc,
    fun c hc => List.mem_rtakeWhile_imp hc⟩, fun c hc => ?_, fun c hc => ?_⟩
  · apply not_of_head?_dropWhile text.toList
    rw [← hkept, List.head?_append, hc]
    rfl
  · apply not_of_head?_dropWhile (text.toList.dropWhile isBlank).reverse
    rw [← List.getLast?_reverse]
    rwa [hcore] at hc

/-- A text has one core. -/
theorem isCoreOf_iff {text core : String} : IsCoreOf text core ↔ trimBlank text = core := by
  constructor
  · rintro ⟨⟨before, after, hsplit, hbefore, hafter⟩, hfirst, hlast⟩
    rw [trimBlank, hsplit, dropTrailing_dropWhile hbefore hafter hfirst hlast, String.ofList_toList]
  · rintro rfl
    exact isCoreOf_trimBlank text

/-- More blanks at the ends leave the core as it is. -/
theorem IsCoreOf.blanks {text core u w : String} (h : IsCoreOf text core)
    (hu : ∀ c ∈ u.toList, isBlank c = true) (hw : ∀ c ∈ w.toList, isBlank c = true) :
    IsCoreOf (u ++ text ++ w) core where
  around := by
    obtain ⟨before, after, hsplit, hbefore, hafter⟩ := h.around
    refine ⟨u.toList ++ before, after ++ w.toList, ?_, fun c hc => ?_, fun c hc => ?_⟩
    · rw [String.toList_append, String.toList_append, hsplit]
      simp only [List.append_assoc]
    · exact (List.mem_append.mp hc).elim (hu c) (hbefore c)
    · exact (List.mem_append.mp hc).elim (hafter c) (hw c)
  first := h.first
  last := h.last

end Trimming

/-! ## Small and capital letters -/

/-- The text is the word, each letter of which may be a capital. -/
def Spells (word text : String) : Prop :=
  List.Forall₂ (fun letter c => c = letter ∨ c = letter.toUpper) word.toList text.toList

theorem toLower_eq_iff {c letter : Char} (h : letter.isLower = true) :
    c.toLower = letter ↔ c = letter ∨ c = letter.toUpper := by
  constructor
  · rintro rfl
    by_cases hupper : c.isUpper = true
    · have hlower := Char.not_isLower_of_isUpper hupper
      rw [Char.toUpper_toLower_eq_toUpper, Char.toUpper_eq_of_not_isLower hlower]
      exact .inr rfl
    · exact .inl (Char.toLower_eq_of_not_isUpper hupper).symm
  · have hsmall := Char.toLower_eq_of_not_isUpper (Char.not_isUpper_of_isLower h)
    rintro (rfl | rfl)
    · exact hsmall
    · rw [Char.toLower_toUpper_eq_toLower, hsmall]

theorem map_toLower_eq_iff {letters cs : List Char} (h : ∀ l ∈ letters, l.isLower = true) :
    cs.map Char.toLower = letters ↔
      List.Forall₂ (fun letter c => c = letter ∨ c = letter.toUpper) letters cs := by
  induction letters generalizing cs with
  | nil => simp
  | cons letter letters ih =>
    cases cs with
    | nil => simp
    | cons c cs =>
      rw [List.map_cons, List.cons.injEq, List.forall₂_cons, toLower_eq_iff (h letter List.mem_cons_self),
        ih fun l hl => h l (List.mem_cons_of_mem _ hl)]

theorem sameAsciiLetters_iff {word text : String} (h : ∀ l ∈ word.toList, l.isLower = true) :
    sameAsciiLetters text word = true ↔ Spells word text := by
  have hword : word.toList.map Char.toLower = word.toList :=
    (map_toLower_eq_iff h).mpr (List.forall₂_same.mpr fun l _ => .inl rfl)
  rw [sameAsciiLetters, beq_iff_eq, hword, map_toLower_eq_iff h, Spells]

/-! ## ASCII -/

/-- A character whose bytes are all ASCII is its one byte. -/
theorem encode_of_ascii {c : Char} (h : ∀ b ∈ String.utf8EncodeChar c, b.toNat < 128) :
    (String.utf8EncodeChar c).map UInt8.toNat = [c.toNat] := by
  have hval : c.val.toNat = c.toNat := rfl
  simp only [String.utf8EncodeChar, hval] at h ⊢
  split at h
  · next hascii =>
    rw [if_pos hascii]
    simp only [List.map_cons, List.map_nil, UInt8.toNat_ofNat', List.cons.injEq, and_true]
    omega
  · -- otherwise the first byte is not
    exfalso
    split at h
    on_goal 2 => split at h
    all_goals
      have hfirst := h _ List.mem_cons_self
      rw [UInt8.toNat_ofNat'] at hfirst
      omega

open Puzzle (bytes)

theorem bytes_eq (text : String) : bytes text = text.toList.flatMap String.utf8EncodeChar := by
  have hencode : text.toUTF8 = text.toList.utf8Encode := String.utf8Encode_toList.symm
  rw [bytes, hencode]
  simp [List.utf8Encode]

/-- An ASCII text has a byte for each character. -/
theorem map_toNat_bytes {text : String} (h : ∀ b ∈ bytes text, b.toNat < 128) :
    (bytes text).map UInt8.toNat = text.toList.map Char.toNat := by
  rw [bytes_eq] at h ⊢
  rw [List.map_flatMap, List.map_eq_flatMap]
  refine List.flatMap_congr fun c hc => encode_of_ascii fun b hb => ?_
  exact h b (List.mem_flatMap.mpr ⟨c, hc, hb⟩)

namespace Zone

/-! ## The table -/

def isVisible (b : UInt8) : Bool := Nat.ble 0x21 b.toNat && Nat.ble b.toNat 0x7E

/-- A name is written with visible ASCII characters, and is none of the three words but `UTC`. The
lengths are looked at first: a name of another length cannot spell the word. -/
def isPlain (name : String) : Bool :=
  (bytes name).all isVisible &&
    match (bytes name).length with
    | 0 => false
    | 1 => !sameAsciiLetters name "z"
    | 3 => !sameAsciiLetters name "utc" || name == "UTC"
    | 5 => !sameAsciiLetters name "local"
    | _ => true

theorem all_isPlain : names.all isPlain = true := by decide +kernel

section Table

variable {name : String}

theorem isPlain_of_mem (h : name ∈ names) : isPlain name = true :=
  List.all_eq_true.mp all_isPlain name h

theorem visible_of_isPlain (h : isPlain name = true) {b : UInt8} (hb : b ∈ bytes name) :
    0x21 ≤ b.toNat ∧ b.toNat ≤ 0x7E := by
  rw [isPlain, Bool.and_eq_true] at h
  have hvisible := List.all_eq_true.mp h.1 b hb
  simpa [isVisible] using hvisible

theorem map_toNat_of_isPlain (h : isPlain name = true) :
    (bytes name).map UInt8.toNat = name.toList.map Char.toNat := by
  apply map_toNat_bytes
  intro b hb
  have hvisible := visible_of_isPlain h hb
  omega

theorem not_isBlank_of_isPlain (h : isPlain name = true) {c : Char} (hc : c ∈ name.toList) :
    isBlank c = false := by
  have hmem : c.toNat ∈ (bytes name).map UInt8.toNat := by
    rw [map_toNat_of_isPlain h]
    exact List.mem_map_of_mem hc
  obtain ⟨b, hb, hbyte⟩ := List.mem_map.mp hmem
  have hvisible := visible_of_isPlain h hb
  simp only [isBlank, Bool.or_eq_false_iff, Bool.and_eq_false_iff, decide_eq_false_iff_not,
    beq_eq_false_iff_ne]
  omega

theorem isCoreOf_of_isPlain (h : isPlain name = true) : IsCoreOf name name where
  around := ⟨[], [], by simp, by simp, by simp⟩
  first c hc := not_isBlank_of_isPlain h (List.mem_of_head? hc)
  last c hc := not_isBlank_of_isPlain h (List.mem_of_getLast? hc)

theorem length_of_spells {word : String} (h : isPlain name = true) (hs : Spells word name) :
    (bytes name).length = word.toList.length := by
  have hbytes := congrArg List.length (map_toNat_of_isPlain h)
  rw [List.length_map, List.length_map] at hbytes
  rw [hbytes, List.Forall₂.length_eq hs]

/-- The words are written with small letters. -/
theorem spells_iff {word text : String} (h : word ∈ ["local", "utc", "z"]) :
    sameAsciiLetters text word = true ↔ Spells word text := by
  have hlower : ∀ w ∈ ["local", "utc", "z"], ∀ l ∈ w.toList, l.isLower = true := by simp
  exact sameAsciiLetters_iff (hlower word h)

/-- The three words take no name away but `UTC`. -/
structure KeptApart (name : String) : Prop where
  nonempty : name ≠ ""
  here : ¬ Spells "local" name
  utc : Spells "utc" name → name = "UTC"
  z : ¬ Spells "z" name

theorem keptApart_of_isPlain (h : isPlain name = true) : KeptApart name := by
  have hlength : ∀ {word}, Spells word name → (bytes name).length = word.toList.length :=
    length_of_spells h
  rw [isPlain, Bool.and_eq_true] at h
  obtain ⟨-, hwords⟩ := h
  refine ⟨?_, fun hs => ?_, fun hs => ?_, fun hs => ?_⟩
  · rintro rfl
    cases hwords
  · rw [hlength hs] at hwords
    simp [(spells_iff (by simp)).mpr hs] at hwords
  · rw [hlength hs] at hwords
    simpa [(spells_iff (by simp)).mpr hs] using hwords
  · rw [hlength hs] at hwords
    simp [(spells_iff (by simp)).mpr hs] at hwords

end Table

/-! ## Reading -/

/-- The zone that is meant by a text without blanks at its ends. -/
inductive Means : String → Zone → Prop
  | nothing : Means "" here
  | here {core : String} (spelled : Spells "local" core) : Means core here
  | utc {core : String} (spelled : Spells "utc" core ∨ Spells "z" core) : Means core (named "UTC")
  | name {core : String} (mem : core ∈ names) : Means core (named core)

/-- No zone is meant. -/
structure Meaningless (core : String) : Prop where
  nonempty : core ≠ ""
  here : ¬ Spells "local" core
  utc : ¬ Spells "utc" core
  z : ¬ Spells "z" core
  name : core ∉ names

theorem Means.not_meaningless {core : String} {z : Zone} (h : Means core z) :
    ¬ Meaningless core := by
  intro hno
  cases h with
  | nothing => exact hno.nonempty rfl
  | here spelled => exact hno.here spelled
  | utc spelled => exact spelled.elim hno.utc hno.z
  | name mem => exact hno.name mem

/-- What is read is what is meant. -/
theorem parse_cases {s core : String} (h : IsCoreOf s core) :
    (∃ z, parse (some s) = .ok z ∧ Means core z) ∨
      parse (some s) = .error (.zoneUnknown core) ∧ Meaningless core := by
  have hcore := isCoreOf_iff.mp h
  have hlocal : sameAsciiLetters core "local" = true ↔ _ := spells_iff (by simp)
  have hutc : sameAsciiLetters core "utc" = true ↔ _ := spells_iff (by simp)
  have hz : sameAsciiLetters core "z" = true ↔ _ := spells_iff (by simp)
  unfold parse
  dsimp only
  rw [hcore]
  split
  · next hhere =>
    rw [Bool.or_eq_true, String.isEmpty_iff, hlocal] at hhere
    rcases hhere with rfl | hspelled
    · exact .inl ⟨_, rfl, .nothing⟩
    · exact .inl ⟨_, rfl, .here hspelled⟩
  · next hhere =>
    rw [Bool.or_eq_true, String.isEmpty_iff, hlocal, not_or] at hhere
    split
    · next hspelled =>
      rw [Bool.or_eq_true, hutc, hz] at hspelled
      exact .inl ⟨_, rfl, .utc hspelled⟩
    · next hspelled =>
      rw [Bool.or_eq_true, hutc, hz, not_or] at hspelled
      split
      · next hmem => exact .inl ⟨_, rfl, .name (List.contains_iff_mem.mp hmem)⟩
      · next hmem =>
        rw [List.contains_iff_mem] at hmem
        exact .inr ⟨rfl, hhere.1, hhere.2, hspelled.1, hspelled.2, hmem⟩

/-- Words that the same text spells have the same length. -/
theorem length_of_spells_both {word word' text : String} (h : Spells word text)
    (h' : Spells word' text) : word.toList.length = word'.toList.length :=
  (List.Forall₂.length_eq h).trans (List.Forall₂.length_eq h').symm

/-- What spells `utc` or `z` is not empty and does not spell `local`. -/
theorem not_here_of_utc {core : String} (h : Spells "utc" core ∨ Spells "z" core) :
    core ≠ "" ∧ ¬ Spells "local" core := by
  have hlength : ∀ word, Spells word core → word.toList.length = 3 ∨ word.toList.length = 1 :=
    fun word hs => h.imp (length_of_spells_both hs) (length_of_spells_both hs)
  constructor
  · rintro rfl
    exact absurd (hlength "" List.Forall₂.nil) (by simp)
  · intro hs
    exact absurd (hlength "local" hs) (by simp)

/-- A name means its own zone. -/
theorem Means.eq_named {core : String} {z : Zone} (h : Means core z) (hmem : core ∈ names) :
    z = named core := by
  have hapart := keptApart_of_isPlain (isPlain_of_mem hmem)
  cases h with
  | nothing => exact absurd rfl hapart.nonempty
  | here spelled => exact absurd spelled hapart.here
  | utc spelled => rw [hapart.utc (spelled.resolve_right hapart.z)]
  | name mem => rfl

/-- No text means two zones. -/
theorem Means.unique {core : String} {z z' : Zone} (h : Means core z) (h' : Means core z') :
    z = z' := by
  cases h with
  | name mem => exact (h'.eq_named mem).symm
  | nothing =>
    cases h' with
    | name mem => exact Means.nothing.eq_named mem
    | nothing => rfl
    | here spelled => rfl
    | utc spelled => exact absurd rfl (not_here_of_utc spelled).1
  | here spelled =>
    cases h' with
    | name mem => exact (Means.here spelled).eq_named mem
    | nothing => rfl
    | here spelled => rfl
    | utc spelled' => exact absurd spelled (not_here_of_utc spelled').2
  | utc spelled =>
    cases h' with
    | name mem => exact (Means.utc spelled).eq_named mem
    | nothing => exact absurd rfl (not_here_of_utc spelled).1
    | here spelled' => exact absurd spelled' (not_here_of_utc spelled).2
    | utc spelled' => rfl

section Reading

variable {s core name : String}

theorem parse_eq_ok (h : IsCoreOf s core) {z : Zone} : parse (some s) = .ok z ↔ Means core z := by
  rcases parse_cases h with ⟨z', hparse, hmeans⟩ | ⟨hparse, hno⟩
  · rw [hparse, Except.ok.injEq]
    constructor
    · rintro rfl
      exact hmeans
    · exact hmeans.unique
  · rw [hparse]
    constructor
    · exact nofun
    · exact fun hmeans => absurd hno hmeans.not_meaningless

theorem parse_eq_error (h : IsCoreOf s core) {e : Failure} :
    parse (some s) = .error e ↔ e = .zoneUnknown core ∧ Meaningless core := by
  rcases parse_cases h with ⟨z, hparse, hmeans⟩ | ⟨hparse, hno⟩
  · rw [hparse]
    constructor
    · exact nofun
    · rintro ⟨-, hno⟩
      exact absurd hno hmeans.not_meaningless
  · rw [hparse, Except.error.injEq]
    constructor
    · rintro rfl
      exact ⟨rfl, hno⟩
    · exact fun he => he.1.symm

/-- A name is read as the zone of that name. -/
theorem parse_of_mem (h : name ∈ names) : parse (some name) = .ok (named name) :=
  (parse_eq_ok (isCoreOf_of_isPlain (isPlain_of_mem h))).mpr (.name h)

/-- Only zones of the table are read. -/
theorem Means.mem_names (h : Means core (named name)) : name ∈ names := by
  generalize hz : named name = z at h
  cases h with
  | nothing => cases hz
  | here spelled => cases hz
  | utc spelled =>
    cases hz
    decide +kernel
  | name mem =>
    cases hz
    exact mem

/-- How `s`, which is `core` with blanks around it, is read. -/
structure ByName (s core : String) : Prop where
  zone : ∀ z, parse (some s) = .ok z ↔ Means core z
  /-- The failure tells the text without its blanks. -/
  failure : ∀ e, parse (some s) = .error e ↔ e = .zoneUnknown core ∧ Meaningless core
  /-- More blanks around it change nothing. -/
  blanks : ∀ u w : String, (∀ c ∈ u.toList, isBlank c = true) → (∀ c ∈ w.toList, isBlank c = true) →
    parse (some (u ++ s ++ w)) = parse (some s)
  /-- The name of the zone that was read is read as the same zone. -/
  again : ∀ name, parse (some s) = .ok (named name) → parse (some name) = .ok (named name)

theorem byName_of_isCoreOf (h : IsCoreOf s core) : ByName s core where
  zone _ := parse_eq_ok h
  failure _ := parse_eq_error h
  blanks u w hu hw := by
    have hmore := h.blanks hu hw
    unfold parse
    dsimp only
    rw [isCoreOf_iff.mp hmore, isCoreOf_iff.mp h]
  again name hname := parse_of_mem ((parse_eq_ok h).mp hname).mem_names

end Reading

/-- A zone is read by its name, and every name of the table is read as its own zone. -/
theorem parse_by_name :
    (∀ s, ∃ core, (∀ text, IsCoreOf s text ↔ text = core) ∧ ByName s core) ∧
      ∀ name ∈ names, parse (some name) = .ok (named name) ∧ KeptApart name := by
  refine ⟨fun s => ⟨trimBlank s, fun text => ?_, byName_of_isCoreOf (isCoreOf_trimBlank s)⟩,
    fun name h => ⟨parse_of_mem h, keptApart_of_isPlain (isPlain_of_mem h)⟩⟩
  rw [isCoreOf_iff, eq_comm]

-- blanks and letters beyond ASCII: the wide space is dropped, and the small capital stays what it is
example : parse (some " uTc\u3000") = .ok (named "UTC") ∧
    parse (some "\tᴜtc\n") = .error (.zoneUnknown "ᴜtc") := by
  decide +kernel

end Zone

end PuzzleInputs
