import FleetOperator.Json.Value

/-!
# Binary64 numbers near to integers

Rounding keeps the sign of an integer and never takes one to zero but zero itself. Read
`Number.isZero_of_toDouble` first: a JSON number is a zero exactly if the binary64 number nearest to
it is one.
-/

namespace FleetOperator

namespace Double

/-- An integer other than zero has an exponent far above the least one. -/
theorem neg_54_lt_exponentOfRatio (num : Nat) : -54 < exponentOfRatio num 1 := by
  have hone : (1 : Nat).log2 = 0 := by decide
  simp only [exponentOfRatio, hone]
  split <;> omega

/-- An integer other than zero is not rounded to zero. -/
theorem rankOfRatio_pos {num : Nat} (h : num ≠ 0) : 0 < rankOfRatio num 1 := by
  have hexponent := neg_54_lt_exponentOfRatio num
  have hbinade : 0 < (exponentOfRatio num 1 + 1074).toNat := by omega
  simp only [rankOfRatio, if_neg h]
  exact Nat.lt_of_lt_of_le (Nat.mul_pos hbinade (Nat.pow_pos (by decide))) (Nat.le_add_right _ _)

/-- The binary64 number nearest to an integer is zero exactly if the integer is. -/
theorem isZero_of_ofInt {value : Int} {d : Double} (h : ofInt value = some d) :
    d.isZero = true ↔ value = 0 := by
  have hrank : d.rank = rankOfRatio value.natAbs 1 := by
    simp only [ofInt, ofRatio, ofRank] at h
    split at h
    · rw [← Option.some.inj h]
    · exact absurd h (by simp)
  rw [isZero, beq_iff_eq, hrank]
  constructor
  · intro hzero
    refine Decidable.byContradiction fun hne ↦ ?_
    exact absurd hzero (Nat.ne_of_gt (rankOfRatio_pos (Int.natAbs_ne_zero.2 hne)))
  · rintro rfl
    rfl

/-- Two numbers of which one is not zero are the same value only if they are the same number. -/
theorem sameValue_iff {a b : Double} (h : a.isZero = false) : a.sameValue b = true ↔ a = b := by
  obtain ⟨negative, rank, _⟩ := a
  obtain ⟨negative', rank', _⟩ := b
  have hrank : rank ≠ 0 := by simpa [isZero] using h
  simp only [sameValue, Bool.and_eq_true, Bool.or_eq_true, beq_iff_eq, hrank, or_false, mk.injEq]
  exact And.comm

/-- Two zeros are the same value, and only they are the same value as a zero. -/
theorem isZero_of_sameValue {a b : Double} (h : a.sameValue b = true) : a.isZero = b.isZero := by
  have hrank : a.rank = b.rank := by
    simp only [sameValue, Bool.and_eq_true, beq_iff_eq] at h
    exact h.1
  rw [isZero, isZero, hrank]

end Double

namespace Number

/-- A JSON number is a zero exactly if the binary64 number nearest to it is one. -/
theorem isZero_of_toDouble {n : Number} {d : Double} (h : n.toDouble = some d) :
    n.isZero = d.isZero := by
  cases n with
  | integer value =>
      rw [Bool.eq_iff_iff, Double.isZero_of_ofInt h, isZero, beq_iff_eq]
  | double value =>
      obtain rfl : value = d := by simpa [toDouble] using h
      rfl

/-- A zero has a binary64 number nearest to it. -/
theorem toDouble_of_isZero {n : Number} (h : n.isZero = true) : ∃ d, n.toDouble = some d := by
  cases n with
  | integer value =>
      obtain rfl : value = 0 := by simpa [isZero] using h
      exact ⟨.zero, by decide +kernel⟩
  | double value => exact ⟨value, rfl⟩

end Number

end FleetOperator
