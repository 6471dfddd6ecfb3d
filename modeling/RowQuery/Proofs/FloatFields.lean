import RowQuery.Proofs.WholeFloats

/-! # What floating-point patterns stand for

A pattern has three fields: a sign, an exponent and a fraction. Together they encode a rational
number, one of the infinities, or no number at all (`Binary32.decoded`). The order of floats is that
of what they encode, with what is not a number at the bottom (`Binary32.order_eq_compare_decoded`).
-/

namespace RowQuery

/-- An element added at the bottom does not change how the others compare. -/
theorem compare_coe {α : Type} [LinearOrder α] (left right : α) :
    compare (left : WithBot α) (right : WithBot α) = compare left right := by
  rw [← cmp_eq_compare, ← cmp_eq_compare]
  exact WithBot.coe_strictMono.cmp_map_eq left right

namespace Binary32

/-- What floats stand for, in their order: no number, then the lower infinity, the rational numbers
and the upper infinity. -/
abbrev Extended : Type := WithBot (WithBot (WithTop ℚ))

/-- A rational number among them. -/
def exactly (number : ℚ) : Extended := ((number : WithTop ℚ) : WithBot (WithTop ℚ))

/-- The first bit. -/
def signField (x : Binary32) : Nat := x.bits.toNat / 2 ^ 31

/-- The eight bits after the sign. -/
def exponentField (x : Binary32) : Nat := x.bits.toNat / 2 ^ 23 % 2 ^ 8

/-- The last 23 bits. -/
def fractionField (x : Binary32) : Nat := x.bits.toNat % 2 ^ 23

/-- The size that the fields of a pattern encode. The fraction is that of a subnormal number if the
exponent is zero, and follows a leading one otherwise. -/
def encodedSize (x : Binary32) : ℚ :=
  if x.exponentField = 0 then x.fractionField / 2 ^ 149
  else (2 ^ 23 + x.fractionField) * 2 ^ x.exponentField / 2 ^ 150

/-- What a pattern stands for. The greatest exponent is that of the infinities, with fraction zero,
and of what is not a number. -/
def decoded (x : Binary32) : Extended :=
  if x.exponentField = 255 then
    if x.fractionField ≠ 0 then ⊥
    else if x.signField = 1 then ((⊥ : WithBot (WithTop ℚ)) : Extended) else ⊤
  else exactly (if x.signField = 1 then -x.encodedSize else x.encodedSize)

/-- Without its sign, a pattern is its exponent before its fraction. -/
theorem magnitude_eq_fields (x : Binary32) :
    x.magnitude = x.exponentField * 2 ^ 23 + x.fractionField := by
  rw [magnitude, exponentField, fractionField]
  omega

/-- A fraction has 23 bits. -/
theorem fractionField_lt (x : Binary32) : x.fractionField < 2 ^ 23 := Nat.mod_lt _ (by decide)

/-- The sign of a float is its first bit. -/
theorem signField_eq_one_iff (x : Binary32) : x.signField = 1 ↔ x.isNegative = true := by
  have bounded := x.bits.toNat_lt
  rw [signField, isNegative, decide_eq_true_eq]
  omega

/-- A pattern that is not a number encodes none. -/
theorem decoded_of_isNaN {x : Binary32} (undefined : x.isNaN = true) : x.decoded = ⊥ := by
  have beyond : infinityPattern < x.magnitude := of_decide_eq_true undefined
  have short := x.fractionField_lt
  rw [magnitude_eq_fields, infinityPattern] at beyond
  have bounded : x.exponentField < 2 ^ 8 := Nat.mod_lt _ (by decide)
  rw [decoded, if_pos (by omega), if_pos (by omega)]

/-- The units that the fields of a finite number stand for. -/
theorem units_eq_fields (x : Binary32) :
    x.units = if x.exponentField = 0 then x.fractionField
      else (2 ^ 23 + x.fractionField) * 2 ^ (x.exponentField - 1) := by
  have short := x.fractionField_lt
  have binade : x.magnitude / 0x800000 = x.exponentField := by
    rw [magnitude_eq_fields]
    omega
  rw [units_eq_unitsAt, unitsAt, binade, magnitude_eq_fields]
  split
  · rename_i subnormal
    rw [subnormal]
    omega
  · congr 1
    omega

/-- The size that the fields of a finite number encode is that of its units. -/
theorem size_eq_encodedSize (x : Binary32) : x.size = x.encodedSize := by
  rw [size, units_eq_fields, encodedSize]
  split
  · rfl
  · rename_i normal
    obtain ⟨exponent, same⟩ := Nat.exists_eq_succ_of_ne_zero normal
    rw [same, Nat.succ_sub_one, pow_succ _ exponent, ← mul_assoc, pow_succ _ 149,
      mul_div_mul_right _ _ two_ne_zero]
    push_cast
    rfl

private theorem isInfinite_iff (x : Binary32) :
    x.isInfinite = true ↔ x.exponentField = 255 ∧ x.fractionField = 0 := by
  have short := x.fractionField_lt
  rw [isInfinite, decide_eq_true_eq, magnitude_eq_fields, infinityPattern]
  omega

/-- A pattern of a number encodes the value of the number. -/
theorem decoded_of_number {x : Binary32} (number : x.isNaN = false) : x.decoded = x.value := by
  have within : x.magnitude ≤ infinityPattern := Nat.not_lt.mp (of_decide_eq_false number)
  have short := x.fractionField_lt
  rw [magnitude_eq_fields, infinityPattern] at within
  simp only [decoded, value, signField_eq_one_iff]
  by_cases infinite : x.isInfinite = true
  · obtain ⟨highest, zero⟩ := x.isInfinite_iff.mp infinite
    rw [if_pos highest, if_neg (not_not.mpr zero), if_pos infinite]
    split <;> rfl
  · have finite : x.exponentField ≠ 255 := fun highest =>
      infinite (x.isInfinite_iff.mpr ⟨highest, by omega⟩)
    rw [if_neg finite, if_neg infinite, ← size_eq_encodedSize, exactly, unitsValue, signedCount,
      size]
    split
    · rw [Int.cast_neg, neg_div, Int.cast_natCast]
    · rw [Int.cast_natCast]

/-- **Floats are ordered by what their fields encode.** -/
theorem order_eq_compare_decoded (x y : Binary32) : x.order y = compare x.decoded y.decoded := by
  rw [order_eq_compare_number?]
  cases undefinedX : x.isNaN <;> cases undefinedY : y.isNaN
  · rw [← order_eq_compare_number?, order_eq_compare_value undefinedX undefinedY,
      decoded_of_number undefinedX, decoded_of_number undefinedY, compare_coe]
  · rw [decoded_of_number undefinedX, decoded_of_isNaN undefinedY,
      compare_gt_iff_gt.mpr (WithBot.bot_lt_coe _), number?_eq_signedCount undefinedX, number?,
      if_pos undefinedY]
    rfl
  · rw [decoded_of_isNaN undefinedX, decoded_of_number undefinedY,
      compare_lt_iff_lt.mpr (WithBot.bot_lt_coe _), number?_eq_signedCount undefinedY, number?,
      if_pos undefinedX]
    rfl
  · rw [decoded_of_isNaN undefinedX, decoded_of_isNaN undefinedY, compare_eq_iff_eq.mpr rfl,
      number?, number?, if_pos undefinedX, if_pos undefinedY]
    rfl

end Binary32

end RowQuery
