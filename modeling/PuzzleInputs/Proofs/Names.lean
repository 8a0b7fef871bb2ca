import Mathlib
import PuzzleInputs.Puzzle

/-!
# Addresses and file names

A decimal number has no slash in it, so the address of an input can be taken apart from its right end:
it tells the day, the year and the base, the last but for slashes at its end (`address_eq_iff`). A file
name tells its day, and up to two digits the names are in the order of the days
(`names_tell_puzzles`).
-/

namespace PuzzleInputs

/-! ## Decimal numbers -/

theorem slash_notMem_nat (n : Nat) : '/' ∉ (toString n).toList := by
  rw [Nat.toString_eq_ofList_toDigits, String.toList_ofList]
  intro h
  have hdigit := Nat.isDigit_of_mem_toDigits (by decide) (by decide) h
  exact absurd hdigit (by decide)

theorem slash_notMem_int (i : Int) : '/' ∉ (toString i).toList := by
  rw [Int.toString_eq_repr, Int.repr_eq_if]
  split
  · exact slash_notMem_nat i.toNat
  · rw [String.toList_append, List.mem_append, not_or]
    exact ⟨by decide, slash_notMem_nat (-i).toNat⟩

/-- Zeros on the left do not change the number that is read. -/
theorem ofDigitChars_zeroPadded (width n : Nat) :
    Nat.ofDigitChars 10 (zeroPadded width n).toList 0 = n := by
  rw [zeroPadded, String.toList_append, String.toList_ofList, Nat.ofDigitChars_append,
    Nat.ofDigitChars_replicate_zero, Nat.mul_zero, Nat.toString_eq_ofList_toDigits,
    String.toList_ofList, Nat.ofDigitChars_ten_toDigits]

/-- The two parts of a text around its last slash. -/
theorem append_slash_inj {before before' after after' : List Char} (h : '/' ∉ after)
    (h' : '/' ∉ after') :
    before ++ '/' :: after = before' ++ '/' :: after' ↔ before = before' ∧ after = after' := by
  constructor
  · intro heq
    rcases List.append_eq_append_iff.mp heq with ⟨between, hb, hs⟩ | ⟨between, hb, hs⟩
    · rcases List.cons_eq_append_iff.mp hs with ⟨rfl, hafter⟩ | ⟨rest, rfl, hafter⟩
      · rw [List.append_nil] at hb
        exact ⟨hb.symm, (List.cons.inj hafter).2.symm⟩
      · exact absurd (by rw [hafter]; simp) h
    · rcases List.cons_eq_append_iff.mp hs with ⟨rfl, hafter⟩ | ⟨rest, rfl, hafter⟩
      · rw [List.append_nil] at hb
        exact ⟨hb, (List.cons.inj hafter).2⟩
      · exact absurd (by rw [hafter]; simp) h'
  · rintro ⟨rfl, rfl⟩
    rfl

/-! ## Slashes at the end -/

/-- `stem` is what is left of `base` without the slashes at its end. -/
structure IsStem (base : String) (stem : List Char) : Prop where
  slashes : ∃ n, base.toList = stem ++ List.replicate n '/'
  last : stem.getLast? ≠ some '/'

theorem isStem_dropTrailing (base : String) : IsStem base (dropTrailing (· == '/') base.toList) where
  slashes := by
    have hsplit := congrArg List.reverse
      (List.takeWhile_append_dropWhile (p := (· == '/')) (l := base.toList.reverse))
    rw [List.reverse_append, List.reverse_reverse] at hsplit
    refine ⟨(base.toList.reverse.takeWhile (· == '/')).length, hsplit.symm.trans ?_⟩
    rw [dropTrailing, List.append_cancel_left_eq, List.eq_replicate_iff]
    refine ⟨List.length_reverse, fun c hc => ?_⟩
    have hslash := List.mem_takeWhile_imp (List.mem_reverse.mp hc)
    exact eq_of_beq hslash
  last := by
    intro hlast
    rw [dropTrailing, List.getLast?_reverse] at hlast
    have hhead := List.head?_dropWhile_not (· == '/') base.toList.reverse
    rw [hlast] at hhead
    cases hhead

theorem IsStem.eq_dropTrailing {base : String} {stem : List Char} (h : IsStem base stem) :
    stem = dropTrailing (· == '/') base.toList := by
  obtain ⟨n, hn⟩ := h.slashes
  have hkeep : stem.reverse.dropWhile (· == '/') = stem.reverse := by
    cases hr : stem.reverse with
    | nil => rfl
    | cons c rest =>
      have hc : c ≠ '/' := by
        rintro rfl
        apply h.last
        rw [← List.head?_reverse, hr, List.head?_cons]
      exact List.dropWhile_cons_of_neg (by simpa using hc)
  rw [dropTrailing, hn, List.reverse_append, List.dropWhile_append_of_pos (by simp), hkeep,
    List.reverse_reverse]

/-- Two bases have a stem in common when they are the same without the slashes at their ends. -/
theorem common_stem_iff {base base' : String} :
    (∃ stem, IsStem base stem ∧ IsStem base' stem) ↔
      dropTrailing (· == '/') base.toList = dropTrailing (· == '/') base'.toList := by
  constructor
  · rintro ⟨stem, h, h'⟩
    rw [← h.eq_dropTrailing, ← h'.eq_dropTrailing]
  · intro h
    exact ⟨_, isStem_dropTrailing base, h ▸ isStem_dropTrailing base'⟩

namespace Puzzle

theorem toList_address (base : String) (year : Int) (day : Nat) :
    (address base year day).toList =
      dropTrailing (· == '/') base.toList ++ '/' :: (toString year).toList ++ "/day".toList ++
        '/' :: (toString day).toList ++ "/input".toList := by
  simp [address]

theorem address_eq_iff {base base' : String} {year year' : Int} {day day' : Nat} :
    address base year day = address base' year' day' ↔
      (∃ stem, IsStem base stem ∧ IsStem base' stem) ∧ year = year' ∧ day = day' := by
  rw [common_stem_iff, ← String.toList_inj, toList_address, toList_address]
  -- from the right: the day ends at the first slash, then the year at the next but one
  rw [List.append_cancel_right_eq, append_slash_inj (slash_notMem_nat day) (slash_notMem_nat day'),
    List.append_cancel_right_eq, append_slash_inj (slash_notMem_int year) (slash_notMem_int year'),
    String.toList_inj, String.toList_inj, Int.toString_eq_repr, Int.toString_eq_repr, Int.repr_inj,
    Nat.toString_eq_repr, Nat.toString_eq_repr, Nat.repr_inj, and_assoc]

/-- Slashes after the base do not matter. -/
theorem address_append_slashes (base : String) (n : Nat) (year : Int) (day : Nat) :
    address (base ++ String.ofList (List.replicate n '/')) year day = address base year day := by
  have hbase := isStem_dropTrailing base
  obtain ⟨m, hm⟩ := hbase.slashes
  refine address_eq_iff.mpr ⟨⟨_, ⟨⟨m + n, ?_⟩, hbase.last⟩, hbase⟩, rfl, rfl⟩
  rw [String.toList_append, String.toList_ofList, List.replicate_add, ← List.append_assoc, ← hm]

theorem fileName_injective : Function.Injective fileName := by
  intro day day' h
  have hdigits : zeroPadded 2 day = zeroPadded 2 day' := by
    rwa [fileName, fileName, String.append_right_inj] at h
  rw [← ofDigitChars_zeroPadded 2 day, hdigits, ofDigitChars_zeroPadded]

/-- The bytes of a text. -/
def bytes (text : String) : List UInt8 := text.toUTF8.data.toList

theorem bytes_fileName {day : Nat} (h : day ≤ 99) :
    bytes (fileName day) =
      bytes "input_" ++ [UInt8.ofNat (48 + day / 10), UInt8.ofNat (48 + day % 10)] := by
  have hall : ∀ d < 100, bytes (fileName d) =
      bytes "input_" ++ [UInt8.ofNat (48 + d / 10), UInt8.ofNat (48 + d % 10)] := by
    decide +kernel
  exact hall day (by omega)

theorem fileName_lt {day day' : Nat} (hlt : day < day') (hle : day' ≤ 99) :
    bytes (fileName day) < bytes (fileName day') := by
  rw [bytes_fileName (by omega), bytes_fileName hle]
  apply List.append_left_lt
  -- the tens decide, and where they are the same the units do
  rw [List.cons_lt_cons_iff]
  rcases Nat.lt_or_ge (day / 10) (day' / 10) with htens | htens
  · refine .inl ?_
    rw [UInt8.lt_iff_toNat_lt, UInt8.toNat_ofNat', UInt8.toNat_ofNat']
    omega
  · have hsame : day / 10 = day' / 10 := by omega
    refine .inr ⟨by rw [hsame], List.cons_lt_cons_iff.mpr (.inl ?_)⟩
    rw [UInt8.lt_iff_toNat_lt, UInt8.toNat_ofNat', UInt8.toNat_ofNat']
    omega

/-- Addresses and file names tell the puzzles apart, and the names sort as the days do. -/
theorem names_tell_puzzles :
    (∀ (base base' : String) (year year' : Int) (day day' : Nat),
      address base year day = address base' year' day' ↔
        (∃ stem, IsStem base stem ∧ IsStem base' stem) ∧ year = year' ∧ day = day') ∧
    (∀ (base : String) (n : Nat) (year : Int) (day : Nat),
      address (base ++ String.ofList (List.replicate n '/')) year day = address base year day) ∧
    (∀ day day' : Nat, fileName day = fileName day' → day = day') ∧
    ∀ day day' : Nat, day < day' → day' ≤ 99 → bytes (fileName day) < bytes (fileName day') :=
  ⟨fun _ _ _ _ _ _ => address_eq_iff, address_append_slashes, fun _ _ h => fileName_injective h,
    fun _ _ hlt hle => fileName_lt hlt hle⟩

-- a base that looks like the address of another day
example : address "http://aoc.test/2018/day/1/input//" 2018 12 =
    "http://aoc.test/2018/day/1/input/2018/day/12/input" := by
  decide +kernel

end Puzzle

end PuzzleInputs
