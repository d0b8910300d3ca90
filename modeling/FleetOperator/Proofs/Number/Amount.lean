import FleetOperator.Proofs.Json.Comparison
import FleetOperator.Proofs.Number.Spelling
import Mathlib.Data.Rat.Floor
import Mathlib.Tactic.FieldSimp
import Mathlib.Tactic.NormNum

/-!
# The amounts that quantities denote

What a spelling of a quantity denotes is a rational number of units, and its amount is that number in
nano units with the magnitude rounded up. Read `right_amount_or_overflow` first: what is read is the
amount that is denoted, and the reading breaks off exactly where a sum of the rounding leaves its 128
bits. `fitting_spellings_read` gives bounds within which every spelling is read or breaks off, so that
two spellings that are read are equivalent texts exactly if their amounts are the same.
-/

namespace FleetOperator.Quantity

namespace Spelling

variable (s : Spelling)

/-! ## What a spelling denotes -/

/-- The number of units that a spelling denotes without its sign. -/
def value : ℚ :=
  (Digits.numeral s.whole + Digits.numeral s.fraction / 10 ^ s.fraction.length) *
    10 ^ s.suffix.decimal * 2 ^ s.suffix.binary

/-- The amount that a spelling denotes: its value in nano units with the magnitude rounded up. -/
def amount : Int := s.sign.apply ⌈s.value * 10 ^ 9⌉

/-- The power of ten that turns the digits of a spelling, without their point, into nano units. -/
def exponent : Int := s.suffix.decimal - s.fraction.length + 9

/-- The digits of a spelling, without their point, under the power of two of the suffix. -/
def shifted : Nat := s.number * 2 ^ s.suffix.binary

/-- In nano units the digits of a spelling count as integers. -/
theorem value_mul_nano : s.value * 10 ^ 9 = s.shifted * (10 : ℚ) ^ s.exponent := by
  have hten : (10 : ℚ) ≠ 0 := by norm_num
  rw [value, exponent, shifted, number, Digits.numeral_append, zpow_add₀ hten, zpow_sub₀ hten,
    zpow_natCast]
  push_cast
  field_simp
  ring

/-! ## How it is computed -/

/-- Whether an integer fits 32 bits. -/
def Fits32 (n : Int) : Prop := -2 ^ 31 ≤ n ∧ n < 2 ^ 31

/-- Whether every number on the way to the amount fits the integers of 32 and of 128 bits that it
is computed in, the sums of the rounding apart. -/
structure OperationsFit : Prop where
  places : Fits32 s.fraction.length
  decimal : Fits32 (s.suffix.decimal - s.fraction.length)
  exponent : Fits32 s.exponent
  digits : s.number < 2 ^ 127
  shifted : s.shifted < 2 ^ 127
  power : 10 ^ s.exponent.natAbs < 2 ^ 127
  product : s.shifted * 10 ^ s.exponent.toNat < 2 ^ 127

/-- Whether the sums of the rounding fit an integer of 128 bits, where there is something to round.
The first of them is the greatest: the whole divisor is added before one is taken away. -/
def RoundingFits : Prop := s.exponent < 0 → s.shifted + 10 ^ (-s.exponent).toNat < 2 ^ 127

instance : Decidable s.RoundingFits := inferInstanceAs (Decidable (_ → _))

end Spelling

open Spelling (Fits32)

/-- An integer fits 32 bits as itself or not at all. -/
theorem fit32_eq_some_iff {n m : Int} : fit32 n = some m ↔ m = n ∧ Fits32 n := by
  have hbound : ((Nat.pow 2 31 : Nat) : Int) = 2 ^ 31 := by norm_num
  rw [fit32, hbound, Option.ite_none_right_eq_some, Option.some.injEq, and_comm,
    eq_comm (a := n)]
  rfl

/-- An integer fits 128 bits as itself or not at all. -/
theorem fit128_eq_some_iff {n m : Int} :
    fit128 n = some m ↔ m = n ∧ -2 ^ 127 ≤ n ∧ n < 2 ^ 127 := by
  have hbound : ((Nat.pow 2 127 : Nat) : Int) = 2 ^ 127 := by norm_num
  rw [fit128, hbound, Option.ite_none_right_eq_some, Option.some.injEq, and_comm,
    eq_comm (a := n)]

/-- A natural number fits 128 bits as itself or not at all. -/
theorem fit128_natCast_eq_some_iff {n : Nat} {m : Int} :
    fit128 n = some m ↔ m = n ∧ n < 2 ^ 127 := by
  rw [fit128_eq_some_iff]
  exact and_congr_right fun _ ↦ by omega

/-- An unchecked operation has its result where that fits. -/
theorem unchecked_of_fits {fit : Int → Option Int} {n m : Int} (h : fit n = some m) :
    unchecked fit n = pure m := by
  rw [unchecked, h]

/-- An unchecked operation breaks off where its result does not fit. -/
theorem unchecked_of_overflows {fit : Int → Option Int} {n : Int} (h : fit n = none) :
    unchecked fit n = throw .overflow := by
  rw [unchecked, h]

/-- A power of ten fits 128 bits exactly up to the 38th one. -/
theorem pow_ten_lt_iff {n : Nat} : 10 ^ n < 2 ^ 127 ↔ n ≤ 38 := by
  have hlast : 10 ^ 38 < 2 ^ 127 := by norm_num
  have hnext : 2 ^ 127 < 10 ^ 39 := by norm_num
  constructor
  · intro h
    by_contra hlt
    exact absurd h (not_lt.2 (hnext.le.trans (Nat.pow_le_pow_right (by norm_num) (by omega))))
  · exact fun h ↦ (Nat.pow_le_pow_right (by norm_num) h).trans_lt hlast

theorem power10?_eq_some_iff {n : Nat} {m : Int} :
    power10? n = some m ↔ m = (10 ^ n : Nat) ∧ 10 ^ n < 2 ^ 127 := by
  rw [pow_ten_lt_iff, power10?, Option.ite_none_right_eq_some, Option.some.injEq, and_comm,
    eq_comm (b := m)]
  rfl

/-- A value is divided and rounded up if the divisor can be added to it. -/
theorem run_rounding (value : Nat) {divisor : Nat} (hdivisor : 0 < divisor) :
    (do let sum ← unchecked fit128 (value + divisor)
        let sum ← unchecked fit128 (sum - 1)
        return sum.tdiv divisor : ExceptT Overflow Option Int).run =
      some (if value + divisor < 2 ^ 127 then .ok ((value + divisor - 1) / divisor : Nat)
        else .error .overflow) := by
  split
  · next hsum =>
    have hless : (value + divisor : Int) - 1 = (value + divisor - 1 : Nat) := by omega
    rw [unchecked_of_fits (fit128_eq_some_iff.2 ⟨rfl, by omega, by omega⟩), pure_bind,
      unchecked_of_fits (fit128_eq_some_iff.2 ⟨rfl, by omega, by omega⟩), pure_bind, hless,
      Int.tdiv_eq_ediv_of_nonneg (Int.natCast_nonneg _)]
    rfl
  · next hsum =>
    have hnone : fit128 (value + divisor) = none := by
      rw [Option.eq_none_iff_forall_ne_some]
      intro m hm
      have := (fit128_eq_some_iff.1 hm).2
      omega
    rw [unchecked_of_overflows hnone]
    rfl

/-- Digits are scaled if every number on the way fits, and break off if only the rounding does
not. -/
theorem scaled?_eq_some_iff {mantissa binary : Nat} {exponent : Int}
    {outcome : Except Overflow Int} (hnegated : Fits32 (-exponent)) :
    (scaled? mantissa binary exponent).run = some outcome ↔
      (mantissa < 2 ^ 127 ∧ mantissa * 2 ^ binary < 2 ^ 127 ∧ 10 ^ exponent.natAbs < 2 ^ 127 ∧
        mantissa * 2 ^ binary * 10 ^ exponent.toNat < 2 ^ 127) ∧
      outcome = if 0 ≤ exponent then .ok (mantissa * 2 ^ binary * 10 ^ exponent.toNat : Nat)
        else if mantissa * 2 ^ binary + 10 ^ (-exponent).toNat < 2 ^ 127 then
          .ok ((mantissa * 2 ^ binary + 10 ^ (-exponent).toNat - 1) / 10 ^ (-exponent).toNat : Nat)
        else .error .overflow := by
  have hshifted : (mantissa : Int) * (Nat.pow 2 binary : Nat) = (mantissa * 2 ^ binary : Nat) :=
    (Nat.cast_mul _ _).symm
  simp only [scaled?, run_checked_bind, Option.bind_eq_some_iff, fit128_natCast_eq_some_iff,
    and_assoc, exists_eq_left, hshifted]
  refine and_congr_right fun _ ↦ and_congr_right fun hvalue ↦ ?_
  by_cases hsign : 0 ≤ exponent
  · have hpower : exponent.natAbs = exponent.toNat := by omega
    simp only [if_pos hsign, hpower, run_checked_bind, Option.bind_eq_some_iff,
      power10?_eq_some_iff, and_assoc, exists_eq_left, ← Nat.cast_mul]
    refine and_congr_right fun _ ↦ ?_
    simp only [run_checked, Option.map_eq_some_iff, fit128_natCast_eq_some_iff, and_assoc,
      exists_eq_left]
    rw [eq_comm (a := outcome)]
  · have hpower : exponent.natAbs = (-exponent).toNat := by omega
    have hwhole : exponent.toNat = 0 := by omega
    have hdivisor : 0 < 10 ^ (-exponent).toNat := Nat.pow_pos (by norm_num)
    rw [if_neg hsign, if_neg hsign, unchecked_of_fits (fit32_eq_some_iff.2 ⟨rfl, hnegated⟩)]
    simp only [pure_bind, run_checked_bind, Option.bind_eq_some_iff, power10?_eq_some_iff,
      and_assoc, exists_eq_left, hpower, hwhole, pow_zero, mul_one, and_iff_right hvalue]
    refine and_congr_right fun _ ↦ ?_
    rw [run_rounding _ hdivisor, Option.some.injEq, eq_comm]

/-- What a text writes is read if its amount can be computed. -/
theorem read_eq_ok_some_iff {text : String} {amount : Int} :
    read text = .ok (some amount) ↔ (amount? text).run = some (.ok amount) := by
  unfold read
  rcases (amount? text).run with _ | (e | other) <;> simp

/-- A reading breaks off if the computation of the amount does. -/
theorem read_eq_error_iff {text : String} {e : Overflow} :
    read text = .error e ↔ (amount? text).run = some (.error e) := by
  unfold read
  rcases (amount? text).run with _ | (other | amount) <;> simp

namespace Spelling

variable (s : Spelling)

/-! ## Rounding -/

/-- A quotient is rounded up by adding all but one of the divisor. -/
theorem ceil_div (value : Nat) {divisor : Nat} (hdivisor : 0 < divisor) :
    ⌈(value : ℚ) / divisor⌉ = ((value + divisor - 1) / divisor : Nat) := by
  have hpos : (0 : ℚ) < divisor := by exact_mod_cast hdivisor
  have hdivided := Nat.div_add_mod (value + divisor - 1) divisor
  have hrest := Nat.mod_lt (value + divisor - 1) hdivisor
  set quotient := (value + divisor - 1) / divisor
  have hbelow : (divisor * quotient : ℤ) < value + divisor := by
    have : divisor * quotient < value + divisor := by omega
    exact_mod_cast this
  have habove : (value : ℤ) ≤ divisor * quotient := by
    have : value ≤ divisor * quotient := by omega
    exact_mod_cast this
  rw [Int.ceil_eq_iff, lt_div_iff₀ hpos, div_le_iff₀ hpos]
  constructor
  · have hlt : ((divisor * quotient : ℤ) : ℚ) < ((value + divisor : ℤ) : ℚ) := by
      exact_mod_cast hbelow
    push_cast at hlt ⊢
    linarith
  · have hle : ((value : ℤ) : ℚ) ≤ ((divisor * quotient : ℤ) : ℚ) := by exact_mod_cast habove
    push_cast at hle ⊢
    linarith

/-- The amount of a spelling whose digits count at least nano units. -/
theorem ceil_value_of_nonneg (h : 0 ≤ s.exponent) :
    ⌈s.value * 10 ^ 9⌉ = s.shifted * 10 ^ s.exponent.toNat := by
  obtain ⟨places, hplaces⟩ := Int.eq_ofNat_of_zero_le h
  rw [value_mul_nano, hplaces, zpow_natCast, Int.toNat_natCast]
  exact_mod_cast Int.ceil_intCast (R := ℚ) (s.shifted * 10 ^ places : ℤ)

/-- The amount of a spelling whose digits count less than nano units. -/
theorem ceil_value_of_neg (h : s.exponent < 0) : ⌈s.value * 10 ^ 9⌉ =
    ((s.shifted + 10 ^ (-s.exponent).toNat - 1) / 10 ^ (-s.exponent).toNat : Nat) := by
  obtain ⟨places, hplaces⟩ := Int.eq_ofNat_of_zero_le (Int.neg_nonneg.2 h.le)
  have hexponent : s.exponent = -(places : ℤ) := by omega
  rw [value_mul_nano, hplaces, Int.toNat_natCast, ← ceil_div _ (Nat.pow_pos (by norm_num)),
    hexponent, zpow_neg, zpow_natCast, div_eq_mul_inv]
  push_cast
  rfl

/-- The amount of a spelling fits 128 bits if everything on the way does. -/
theorem ceil_value_lt (hfit : s.OperationsFit) (hrounding : s.RoundingFits) :
    0 ≤ ⌈s.value * 10 ^ 9⌉ ∧ ⌈s.value * 10 ^ 9⌉ < 2 ^ 127 := by
  by_cases hsign : 0 ≤ s.exponent
  · rw [ceil_value_of_nonneg s hsign]
    have hproduct := hfit.product
    constructor
    · positivity
    · exact_mod_cast hproduct
  · have hsum := hrounding (not_le.1 hsign)
    rw [ceil_value_of_neg s (not_le.1 hsign)]
    have hquotient := Nat.div_le_self (s.shifted + 10 ^ (-s.exponent).toNat - 1)
      (10 ^ (-s.exponent).toNat)
    have hless : (s.shifted + 10 ^ (-s.exponent).toNat - 1) / 10 ^ (-s.exponent).toNat < 2 ^ 127 := by
      omega
    exact ⟨Int.natCast_nonneg _, by exact_mod_cast hless⟩

/-! ## Reading -/

/-- A spelling without its sign is read if every number on the way to its amount fits, and breaks off
if only the rounding does not. -/
theorem magnitude?_text_eq_some_iff {outcome : Except Overflow Int} :
    (magnitude? (s.numberText ++ s.suffix.text)).run = some outcome ↔
      s.OperationsFit ∧
        outcome = if s.RoundingFits then .ok ⌈s.value * 10 ^ 9⌉ else .error .overflow := by
  have hrounded : (if 0 ≤ s.exponent then .ok (s.shifted * 10 ^ s.exponent.toNat : Nat)
      else if s.shifted + 10 ^ (-s.exponent).toNat < 2 ^ 127 then
        .ok ((s.shifted + 10 ^ (-s.exponent).toNat - 1) / 10 ^ (-s.exponent).toNat : Nat)
      else .error .overflow : Except Overflow Int) =
      if s.RoundingFits then .ok ⌈s.value * 10 ^ 9⌉ else .error .overflow := by
    by_cases hsign : 0 ≤ s.exponent
    · have hround : s.RoundingFits := fun h ↦ absurd hsign (not_le.2 h)
      rw [if_pos hsign, if_pos hround, ceil_value_of_nonneg s hsign]
      push_cast
      rfl
    · have hround : s.RoundingFits ↔ s.shifted + 10 ^ (-s.exponent).toNat < 2 ^ 127 :=
        forall_prop_of_true (not_le.1 hsign)
      rw [if_neg hsign, ceil_value_of_neg s (not_le.1 hsign)]
      simp only [hround]
  -- An exponent of 32 bits that comes from adding nine can be negated.
  have hnegated : Fits32 (s.suffix.decimal - s.fraction.length) → Fits32 s.exponent →
      Fits32 (-s.exponent) := by
    unfold exponent
    rintro ⟨_, _⟩ ⟨_, _⟩
    exact ⟨by omega, by omega⟩
  rw [magnitude?_text]
  simp only [run_checked_bind, Option.bind_eq_some_iff, fit32_eq_some_iff]
  constructor
  · rintro ⟨_, ⟨rfl, hplaces⟩, _, ⟨rfl, hdecimal⟩, _, ⟨rfl, hexponent⟩, hscaled⟩
    obtain ⟨⟨hdigits, hshifted, hpower, hproduct⟩, rfl⟩ :=
      (scaled?_eq_some_iff (hnegated hdecimal hexponent)).1 hscaled
    exact ⟨⟨hplaces, hdecimal, hexponent, hdigits, hshifted, hpower, hproduct⟩, hrounded⟩
  · rintro ⟨h, rfl⟩
    exact ⟨_, ⟨rfl, h.places⟩, _, ⟨rfl, h.decimal⟩, _, ⟨rfl, h.exponent⟩,
      (scaled?_eq_some_iff (hnegated h.decimal h.exponent)).2
        ⟨⟨h.digits, h.shifted, h.power, h.product⟩, hrounded.symm⟩⟩

/-- Negating the amount of a spelling never breaks off. -/
theorem run_negated (hfit : s.OperationsFit) :
    (do unchecked fit128 (-(← magnitude? (s.numberText ++ s.suffix.text)))).run =
      some (if s.RoundingFits then .ok (-⌈s.value * 10 ^ 9⌉) else .error .overflow) := by
  rw [ExceptT.run_bind, s.magnitude?_text_eq_some_iff.2 ⟨hfit, rfl⟩]
  by_cases hrounding : s.RoundingFits
  · obtain ⟨hlow, hhigh⟩ := s.ceil_value_lt hfit hrounding
    have hnegated : fit128 (-⌈s.value * 10 ^ 9⌉) = some (-⌈s.value * 10 ^ 9⌉) :=
      fit128_eq_some_iff.2 ⟨rfl, by omega, by omega⟩
    rw [if_pos hrounding, if_pos hrounding]
    show (unchecked fit128 (-⌈s.value * 10 ^ 9⌉)).run = some (.ok (-⌈s.value * 10 ^ 9⌉))
    rw [unchecked_of_fits hnegated]
    rfl
  · rw [if_neg hrounding, if_neg hrounding]
    rfl

/-- A spelling is read as its amount if every number on the way fits, and breaks off if only the
rounding does not. -/
theorem amount?_text_eq_some_iff {outcome : Except Overflow Int} :
    (amount? s.text).run = some outcome ↔
      s.OperationsFit ∧
        outcome = if s.RoundingFits then .ok s.amount else .error .overflow := by
  rw [amount?_text, amount]
  cases hsign : s.sign with
  | minus =>
      rw [if_pos rfl]
      constructor
      · intro h
        have hbind := h
        rw [ExceptT.run_bind] at hbind
        obtain ⟨first, hfirst, -⟩ := Option.bind_eq_some_iff.1 hbind
        have hfit := (s.magnitude?_text_eq_some_iff.1 hfirst).1
        rw [s.run_negated hfit] at h
        exact ⟨hfit, (Option.some.inj h).symm⟩
      · rintro ⟨hfit, rfl⟩
        exact s.run_negated hfit
  | absent => exact s.magnitude?_text_eq_some_iff
  | plus => exact s.magnitude?_text_eq_some_iff

/-- What is read of a spelling on whose way to the amount every number fits, the rounding apart. -/
theorem read_text (hfit : s.OperationsFit) :
    read s.text = if s.RoundingFits then .ok (some s.amount) else .error .overflow := by
  have hamount := s.amount?_text_eq_some_iff.2 ⟨hfit, rfl⟩
  split
  · next hrounding => exact read_eq_ok_some_iff.2 (by rwa [if_pos hrounding] at hamount)
  · next hrounding => exact read_eq_error_iff.2 (by rwa [if_neg hrounding] at hamount)

/-- The bounds of a spelling: those of the digits, of the digits behind the point, of the scale, and
of the digits under the scale in either direction. The last one is that of the second sum of the
rounding, which the first one exceeds by one. -/
structure Fits : Prop where
  scale : |s.exponent| ≤ 38
  places : s.fraction.length ≤ 2 ^ 31 - 1
  digits : s.number ≤ 2 ^ 127 - 1
  enlarged : s.shifted * 10 ^ s.exponent.toNat ≤ 2 ^ 127 - 1
  reduced : s.shifted + 10 ^ (-s.exponent).toNat - 1 ≤ 2 ^ 127 - 1

/-- Within these bounds everything fits that is computed on the way to the rounding. -/
theorem Fits.operationsFit {s : Spelling} (h : s.Fits) : s.OperationsFit := by
  obtain ⟨hscale, hplaces, hdigits, henlarged, hreduced⟩ := h
  obtain ⟨hlow, hhigh⟩ := abs_le.1 hscale
  have hpower : 1 ≤ 10 ^ s.exponent.toNat := Nat.one_le_pow _ _ (by norm_num)
  have hshifted : s.shifted ≤ s.shifted * 10 ^ s.exponent.toNat := Nat.le_mul_of_pos_right _ hpower
  have hdecimal : s.suffix.decimal - s.fraction.length = s.exponent - 9 := by
    unfold exponent
    omega
  refine ⟨⟨by omega, by omega⟩, ?_, ⟨by omega, by omega⟩, by omega, by omega,
    pow_ten_lt_iff.2 (by omega), by omega⟩
  rw [hdecimal]
  exact ⟨by omega, by omega⟩

/-- Within these bounds the rounding overflows only where its first sum is the first number too
many. -/
theorem Fits.not_roundingFits_iff {s : Spelling} (h : s.Fits) :
    ¬ s.RoundingFits ↔ s.exponent < 0 ∧ s.shifted + 10 ^ (-s.exponent).toNat = 2 ^ 127 := by
  have hreduced := h.reduced
  rw [RoundingFits, Classical.not_imp]
  exact and_congr_right fun _ ↦ by omega

end Spelling

/-! ## What is read -/

/-- The amounts that are read are those of the spellings of quantities on whose way every number fits.
A reading breaks off exactly at the spellings on whose way only the sums of the rounding do not: these
sums are not checked. -/
theorem right_amount_or_overflow (text : String) :
    (∀ amount, read text = .ok (some amount) ↔
      ∃ s : Spelling, s.text = text ∧ s.OperationsFit ∧ s.RoundingFits ∧ amount = s.amount) ∧
    (read text = .error .overflow ↔
      ∃ s : Spelling, s.text = text ∧ s.OperationsFit ∧ ¬ s.RoundingFits) := by
  constructor
  · intro amount
    constructor
    · intro hread
      obtain ⟨s, rfl⟩ := exists_spelling (read_eq_ok_some_iff.1 hread)
      obtain ⟨hfit, hamount⟩ := s.amount?_text_eq_some_iff.1 (read_eq_ok_some_iff.1 hread)
      split at hamount
      · next hrounding => exact ⟨s, rfl, hfit, hrounding, Except.ok.inj hamount⟩
      · cases hamount
    · rintro ⟨s, rfl, hfit, hrounding, rfl⟩
      rw [s.read_text hfit, if_pos hrounding]
  · constructor
    · intro hread
      obtain ⟨s, rfl⟩ := exists_spelling (read_eq_error_iff.1 hread)
      obtain ⟨hfit, hoverflow⟩ := s.amount?_text_eq_some_iff.1 (read_eq_error_iff.1 hread)
      split at hoverflow
      · cases hoverflow
      · next hrounding => exact ⟨s, rfl, hfit, hrounding⟩
    · rintro ⟨s, rfl, hfit, hrounding⟩
      rw [s.read_text hfit, if_neg hrounding]

/-- The reading of the greatest number of 127 bits breaks off when it counts tenths of a nano unit,
although its amount has 124 bits. -/
theorem right_amount_or_overflow_tenths :
    let s : Spelling :=
      { sign := .absent
        whole := "170141183460469231731687303715884105727".toList
        isPointed := false
        fraction := []
        suffix := .exponent ⟨false, .minus, ['1', '0'], by decide, by decide, by decide +kernel⟩
        whole_digits := by decide +kernel
        fraction_digits := rfl
        has_digit := by decide +kernel
        pointed := fun _ ↦ rfl }
    s.text = "170141183460469231731687303715884105727e-10" ∧ s.OperationsFit ∧
      s.amount = 17014118346046923173168730371588410573 ∧
      read s.text = .error .overflow := by
  intro s
  have hfit : s.OperationsFit := by
    refine ⟨?_, ?_, ?_, ?_, ?_, ?_, ?_⟩ <;> (try unfold Spelling.Fits32) <;> decide +kernel
  have hnegative : s.exponent < 0 := by decide +kernel
  have hsum : ¬ s.RoundingFits := by decide +kernel
  refine ⟨by decide +kernel, hfit, ?_, (right_amount_or_overflow s.text).2.2 ⟨s, rfl, hfit, hsum⟩⟩
  rw [Spelling.amount, s.ceil_value_of_neg hnegative]
  decide +kernel

/-- Within its bounds a spelling is read as the amount that it denotes, which is its digits under the
scale of its suffix, rounded up in nano units, unless the first sum of the rounding is the first
number that does not fit: there the reading breaks off. So two spellings that are read are equivalent
texts exactly if their amounts are the same, and a comparison with one that is not breaks off. -/
theorem fitting_spellings_read {s t : Spelling} (hs : s.Fits) (ht : t.Fits) :
    (read s.text = if s.RoundingFits then .ok (some s.amount) else .error .overflow) ∧
      (¬ s.RoundingFits ↔ s.exponent < 0 ∧ s.shifted + 10 ^ (-s.exponent).toNat = 2 ^ 127) ∧
      s.amount = s.sign.apply ⌈(s.number : ℚ) * 2 ^ s.suffix.binary * 10 ^ s.exponent⌉ ∧
      (s.RoundingFits → t.RoundingFits →
        Json.equal? (.text s.text) (.text t.text) = .ok (decide (s.amount = t.amount))) ∧
      (¬ (s.RoundingFits ∧ t.RoundingFits) → s.text ≠ t.text →
        Json.equal? (.text s.text) (.text t.text) = .error .overflow) := by
  have hread (r : Spelling) (hr : r.Fits) :
      read r.text = if r.RoundingFits then .ok (some r.amount) else .error .overflow :=
    r.read_text hr.operationsFit
  refine ⟨hread s hs, hs.not_roundingFits_iff, ?_, ?_, ?_⟩
  · rw [Spelling.amount, s.value_mul_nano, Spelling.shifted]
    push_cast
    rfl
  · intro hsrounding htrounding
    rw [Json.equal?]
    exact Json.equalTexts?_of_read ((hread s hs).trans (if_pos hsrounding))
      ((hread t ht).trans (if_pos htrounding))
  · intro hoverflow hother
    have hoverflows (r : Spelling) (hr : r.Fits) (hrounding : ¬ r.RoundingFits) :
        Json.Overflows r.text :=
      (hread r hr).trans (if_neg hrounding)
    rw [Json.equal?]
    refine (Json.equalTexts?_comes s.text t.text).broken_iff.2 ⟨hother, ?_⟩
    rcases not_and_or.1 hoverflow with hsrounding | htrounding
    · exact .inl (hoverflows s hs hsrounding)
    · exact .inr (hoverflows t ht htrounding)

/-- Nine fewer tenths of a nano unit than the greatest number of 127 bits are within the bounds, where
the first sum of their rounding overflows, and so does the comparison with the same amount in another
spelling. -/
theorem fitting_spellings_read_tenths :
    let s : Spelling :=
      { sign := .absent
        whole := "170141183460469231731687303715884105718".toList
        isPointed := false
        fraction := []
        suffix := .exponent ⟨false, .minus, ['1', '0'], by decide, by decide, by decide +kernel⟩
        whole_digits := by decide +kernel
        fraction_digits := rfl
        has_digit := by decide +kernel
        pointed := fun _ ↦ rfl }
    let t : Spelling :=
      { sign := .plus
        whole := "17014118346046923173168730371588410572".toList
        isPointed := true
        fraction := []
        suffix := .unit .nano
        whole_digits := by decide +kernel
        fraction_digits := rfl
        has_digit := by decide +kernel
        pointed := fun _ ↦ rfl }
    s.text = "170141183460469231731687303715884105718e-10" ∧
      t.text = "+17014118346046923173168730371588410572.n" ∧ s.Fits ∧ t.Fits ∧
      s.amount = 17014118346046923173168730371588410572 ∧
      read s.text = .error .overflow ∧
      read t.text = .ok (some 17014118346046923173168730371588410572) ∧
      Json.equal? (.text s.text) (.text t.text) = .error .overflow := by
  intro s t
  have hs : s.Fits := by constructor <;> decide +kernel
  have ht : t.Fits := by constructor <;> decide +kernel
  have hnegative : s.exponent < 0 := by decide +kernel
  have hsum : ¬ s.RoundingFits := by decide +kernel
  obtain ⟨hread, -, -, -, hequal⟩ := fitting_spellings_read hs ht
  rw [if_neg hsum] at hread
  refine ⟨by decide +kernel, by decide +kernel, hs, ht, ?_, hread, by decide +kernel,
    hequal (fun h ↦ hsum h.1) (by decide +kernel)⟩
  rw [Spelling.amount, s.ceil_value_of_neg hnegative]
  decide +kernel

/-- Half a kibi unit below zero is spelled in several ways. -/
example :
    read "-.5Ki" = .ok (some (-512000000000)) ∧ read "-512.E+0" = .ok (some (-512000000000)) := by
  decide +kernel

end FleetOperator.Quantity
