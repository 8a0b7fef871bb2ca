import Mathlib
import PuzzleInputs.Text.Decimal

/-!
# Numbers as they are written

`IsNumeral digits n` says that `digits` are ASCII digits, at least one, and that `n` is what they stand
for by their places. `IsUnsigned` and `IsSigned` add the signs. The readers accept exactly the texts of
numbers inside their bounds, and give the number itself, however long the text is (`readNat_eq_ok`,
`readInt_eq_ok`). The decimal text of a number is one of them.
-/

namespace PuzzleInputs.Decimal

/-- ASCII digits, at least one. The last counts ones, the one before it tens, and so on. -/
structure IsNumeral (digits : List Char) (n : Nat) : Prop where
  nonempty : digits ≠ []
  ascii : ∀ c ∈ digits, '0' ≤ c ∧ c ≤ '9'
  value : n = Nat.ofDigits 10 (digits.reverse.map fun c => c.toNat - '0'.toNat)

/-- A numeral, which may have a plus sign in front. -/
inductive IsUnsigned (text : String) (n : Nat) : Prop where
  | bare (digits : IsNumeral text.toList n)
  | plus {cs : List Char} (sign : text.toList = '+' :: cs) (digits : IsNumeral cs n)

/-- A numeral, which may have a sign in front. -/
inductive IsSigned (text : String) (i : Int) : Prop where
  | unsigned {n : Nat} (magnitude : IsUnsigned text n) (value : i = n)
  | minus {cs : List Char} {n : Nat} (sign : text.toList = '-' :: cs) (digits : IsNumeral cs n)
      (value : i = -n)

/-! ## Digits -/

theorem digit?_eq_some {c : Char} {d : Nat} :
    digit? c = some d ↔ ('0' ≤ c ∧ c ≤ '9') ∧ d = c.toNat - '0'.toNat := by
  unfold digit?
  split
  · next h => simp [h, eq_comm]
  · next h => simp [h]

/-- Reading from the left adds up what the places are worth. -/
theorem ofDigitChars_eq_ofDigits (cs : List Char) (acc : Nat) :
    Nat.ofDigitChars 10 cs acc =
      10 ^ cs.length * acc + Nat.ofDigits 10 (cs.reverse.map fun c => c.toNat - '0'.toNat) := by
  induction cs generalizing acc with
  | nil => simp
  | cons c cs ih =>
    rw [Nat.ofDigitChars_cons, ih, List.reverse_cons, List.map_append, Nat.ofDigits_append]
    simp only [List.length_cons, List.length_map, List.length_reverse, List.map_cons, List.map_nil,
      Nat.ofDigits_singleton]
    ring

/-- No number that is passed on the way is beyond the one at the end. -/
theorem le_ofDigitChars (cs : List Char) (acc : Nat) : acc ≤ Nat.ofDigitChars 10 cs acc := by
  rw [ofDigitChars_eq_ofDigits]
  have hpos : 0 < 10 ^ cs.length := Nat.pow_pos (by decide)
  have hmul : acc ≤ 10 ^ cs.length * acc := Nat.le_mul_of_pos_left acc hpos
  omega

theorem readDigits_eq_ok {bound : Nat} {overflow : Fault} {acc n : Nat} {cs : List Char}
    (hacc : acc ≤ bound) :
    readDigits bound overflow acc cs = .ok n ↔
      (∀ c ∈ cs, '0' ≤ c ∧ c ≤ '9') ∧ n = Nat.ofDigitChars 10 cs acc ∧ n ≤ bound := by
  induction cs generalizing acc with
  | nil =>
    rw [readDigits, Nat.ofDigitChars_nil, Except.ok.injEq]
    constructor
    · rintro rfl
      exact ⟨nofun, rfl, hacc⟩
    · rintro ⟨-, rfl, -⟩
      rfl
  | cons c cs ih =>
    rw [readDigits, Nat.ofDigitChars_cons, List.forall_mem_cons]
    cases hd : digit? c with
    | none =>
      have hno : ¬ ('0' ≤ c ∧ c ≤ '9') := by
        intro h
        have hsome := digit?_eq_some.mpr ⟨h, rfl⟩
        rw [hd] at hsome
        cases hsome
      simp [hno]
    | some d =>
      obtain ⟨hdigit, rfl⟩ := digit?_eq_some.mp hd
      simp only
      split
      · next hle => rw [ih hle]; simp [hdigit]
      · next hgt =>
        -- the number at the end is beyond the bound as well
        have hend := le_ofDigitChars cs (10 * acc + (c.toNat - '0'.toNat))
        constructor
        · intro h
          cases h
        · rintro ⟨-, rfl, hle⟩
          omega

theorem readMagnitude_eq_ok {bound : Nat} {overflow : Fault} {n : Nat} {cs : List Char} :
    readMagnitude bound overflow cs = .ok n ↔ IsNumeral cs n ∧ n ≤ bound := by
  cases cs with
  | nil =>
    constructor
    · intro h
      cases h
    · rintro ⟨h, -⟩
      exact absurd rfl h.nonempty
  | cons c cs =>
    rw [readMagnitude, readDigits_eq_ok (Nat.zero_le bound), ofDigitChars_eq_ofDigits, Nat.mul_zero,
      Nat.zero_add]
    · constructor
      · rintro ⟨hascii, hvalue, hle⟩
        exact ⟨⟨List.cons_ne_nil c cs, hascii, hvalue⟩, hle⟩
      · rintro ⟨h, hle⟩
        exact ⟨h.ascii, h.value, hle⟩
    · exact List.cons_ne_nil c cs

/-! ## Signs -/

theorem map_eq_ok {α β : Type} {f : α → β} {x : Except Fault α} {b : β} :
    x.map f = .ok b ↔ ∃ a, x = .ok a ∧ f a = b := by
  cases x <;> simp [Except.map]

theorem IsNumeral.head_ne {c sign : Char} {cs : List Char} {n : Nat} (h : IsNumeral (c :: cs) n)
    (hsign : ¬ ('0' ≤ sign ∧ sign ≤ '9')) : c ≠ sign := by
  rintro rfl
  exact hsign (h.ascii c List.mem_cons_self)

/-- A number is read exactly if it is written in the text and is within the bound. -/
theorem readNat_eq_ok {bound : Nat} {text : String} {n : Nat} :
    readNat bound text = .ok n ↔ IsUnsigned text n ∧ n ≤ bound := by
  unfold readNat
  split
  · next hnil =>
    constructor
    · intro h
      cases h
    · rintro ⟨h | ⟨sign, h⟩, -⟩
      · exact absurd hnil h.nonempty
      · cases hnil.symm.trans sign
  · next cs hplus =>
    rw [readMagnitude_eq_ok]
    constructor
    · rintro ⟨h, hle⟩
      exact ⟨.plus hplus h, hle⟩
    · rintro ⟨h | ⟨sign, h⟩, hle⟩
      · rw [hplus] at h
        exact absurd rfl (h.head_ne (by decide))
      · cases hplus.symm.trans sign
        exact ⟨h, hle⟩
  · next hnil hplus =>
    rw [readMagnitude_eq_ok]
    constructor
    · rintro ⟨h, hle⟩
      exact ⟨.bare h, hle⟩
    · rintro ⟨h | ⟨sign, h⟩, hle⟩
      · exact ⟨h, hle⟩
      · exact absurd sign (hplus _)

theorem IsUnsigned.not_minus {text : String} {n : Nat} (h : IsUnsigned text n) (cs : List Char) :
    text.toList ≠ '-' :: cs := by
  intro hminus
  cases h with
  | bare digits =>
    rw [hminus] at digits
    exact digits.head_ne (by decide) rfl
  | plus sign digits => cases sign.symm.trans hminus

theorem readInt_of_minus (bound : Nat) {text : String} {cs : List Char}
    (h : text.toList = '-' :: cs) :
    readInt bound text = (readMagnitude (bound + 1) .tooSmall cs).map fun n => -Int.ofNat n := by
  simp only [readInt, h]

theorem readInt_of_not_minus (bound : Nat) {text : String} (h : ∀ cs, text.toList ≠ '-' :: cs) :
    readInt bound text = (readNat bound text).map Int.ofNat := by
  unfold readInt readNat
  split
  · next htext => simp only [htext]; rfl
  · next cs htext => simp only [htext]
  · next cs htext => exact absurd htext (h cs)
  · next hnil hplus _ =>
    split
    · next htext => exact absurd htext hnil
    · next cs htext => exact absurd htext (hplus cs)
    · rfl

/-- The lower bound lies one further from zero than the upper one. -/
theorem readInt_eq_ok {bound : Nat} {text : String} {i : Int} :
    readInt bound text = .ok i ↔ IsSigned text i ∧ -(bound + 1 : Int) ≤ i ∧ i ≤ bound := by
  by_cases hminus : ∃ cs, text.toList = '-' :: cs
  · obtain ⟨cs, hminus⟩ := hminus
    rw [readInt_of_minus bound hminus, map_eq_ok]
    constructor
    · rintro ⟨n, h, rfl⟩
      obtain ⟨hdigits, hle⟩ := readMagnitude_eq_ok.mp h
      refine ⟨.minus hminus hdigits rfl, ?_, ?_⟩
      · show -(bound + 1 : Int) ≤ -(n : Int)
        omega
      · show -(n : Int) ≤ bound
        omega
    · rintro ⟨⟨h, -⟩ | ⟨sign, h, rfl⟩, hmin, hmax⟩
      · exact absurd hminus (h.not_minus cs)
      · cases hminus.symm.trans sign
        exact ⟨_, readMagnitude_eq_ok.mpr ⟨h, by omega⟩, rfl⟩
  · rw [readInt_of_not_minus bound (not_exists.mp hminus), map_eq_ok]
    constructor
    · rintro ⟨n, h, rfl⟩
      obtain ⟨hunsigned, hle⟩ := readNat_eq_ok.mp h
      refine ⟨.unsigned hunsigned rfl, ?_, ?_⟩
      · show -(bound + 1 : Int) ≤ (n : Int)
        omega
      · show (n : Int) ≤ bound
        omega
    · rintro ⟨⟨h, rfl⟩ | ⟨sign, h, rfl⟩, hmin, hmax⟩
      · exact ⟨_, readNat_eq_ok.mpr ⟨h, by omega⟩, rfl⟩
      · exact absurd ⟨_, sign⟩ hminus

/-! ## One number for a text -/

theorem IsUnsigned.unique {text : String} {n n' : Nat} (h : IsUnsigned text n)
    (h' : IsUnsigned text n') : n = n' := by
  have hread := readNat_eq_ok.mpr ⟨h, Nat.le_max_left n n'⟩
  have hread' := readNat_eq_ok.mpr ⟨h', Nat.le_max_right n n'⟩
  exact Except.ok.inj (hread.symm.trans hread')

theorem IsSigned.unique {text : String} {i i' : Int} (h : IsSigned text i)
    (h' : IsSigned text i') : i = i' := by
  -- some bound is far enough from zero for both
  have hread : readInt (max i.natAbs i'.natAbs) text = .ok i :=
    readInt_eq_ok.mpr ⟨h, by omega, by omega⟩
  have hread' : readInt (max i.natAbs i'.natAbs) text = .ok i' :=
    readInt_eq_ok.mpr ⟨h', by omega, by omega⟩
  exact Except.ok.inj (hread.symm.trans hread')

/-! ## The decimal text of a number -/

theorem isNumeral_toString (n : Nat) : IsNumeral (toString n).toList n := by
  rw [Nat.toString_eq_ofList_toDigits, String.toList_ofList]
  refine ⟨Nat.toDigits_ne_nil, fun c hc => ?_, ?_⟩
  · have hdigit := Nat.isDigit_of_mem_toDigits (by decide) (by decide) hc
    exact Char.isDigit_iff_toNat.mp hdigit
  · have hvalue := ofDigitChars_eq_ofDigits (Nat.toDigits 10 n) 0
    rw [Nat.mul_zero, Nat.zero_add, Nat.ofDigitChars_ten_toDigits] at hvalue
    exact hvalue

theorem isUnsigned_toString (n : Nat) : IsUnsigned (toString n) n := .bare (isNumeral_toString n)

theorem isSigned_toString (i : Int) : IsSigned (toString i) i := by
  rw [Int.toString_eq_repr, Int.repr_eq_if]
  split
  · next h =>
    refine .unsigned (isUnsigned_toString i.toNat) ?_
    omega
  · next h =>
    refine .minus (String.toList_append ..) (isNumeral_toString (-i).toNat) ?_
    omega

end PuzzleInputs.Decimal
