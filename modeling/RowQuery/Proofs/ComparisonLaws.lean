import RowQuery.Proofs.TextOrder
import RowQuery.Proofs.WholeFloats

/-! # The laws of comparison

Floats and texts are compared by keys in a linear order, so both comparisons are total preorders
(`TotalPreorder.of_key`). Which values are equal differs: patterns that are not numbers form one
class at the bottom, the two zeros form another, and every other number is equal to itself alone
(`order_eq_eq_iff`); numbers are ordered by the values they stand for (`order_eq_compare_value`).
Texts are equal only to themselves.
-/

namespace RowQuery

/-- A comparison that ranks all values, some of them on the same level. -/
structure TotalPreorder {α : Type} (order : α → α → Ordering) : Prop where
  self : ∀ x, order x x = .eq
  reverse : ∀ x y, order y x = (order x y).swap
  transitive : ∀ x y z, order x y ≠ .gt → order y z ≠ .gt → order x z ≠ .gt
  /-- Values on the same level compare alike with every other. -/
  congruent : ∀ x y z, order x y = .eq → order x z = order y z

/-- An order by keys has the laws that the order of the keys has. -/
theorem TotalPreorder.of_key {α β : Type} [Ord β] [Std.TransOrd β] {order : α → α → Ordering}
    (key : α → β) (keyed : ∀ x y, order x y = compare (key x) (key y)) : TotalPreorder order where
  self x := by rw [keyed, Std.ReflOrd.compare_self]
  reverse x y := by rw [keyed, keyed, Std.OrientedOrd.eq_swap]
  transitive x y z := by
    simp only [keyed, ne_eq, ← Ordering.isLE_iff_ne_gt]
    exact Std.TransOrd.isLE_trans
  congruent x y z := by
    simp only [keyed]
    exact Std.TransCmp.congr_left

/-! ## Floats -/

namespace Binary32

/-- Floats are ordered by their keys. -/
theorem order_eq_compare_orderKey? (x y : Binary32) :
    x.order y = compare x.orderKey? y.orderKey? := by
  unfold order
  cases x.orderKey? <;> cases y.orderKey? <;> rfl

/-- The magnitude pattern with the sign of the number. -/
def signedMagnitude (x : Binary32) : Int :=
  if x.isNegative then -(x.magnitude : Int) else x.magnitude

private theorem orderKey?_of_isNaN {x : Binary32} (undefined : x.isNaN = true) :
    x.orderKey? = none := by
  rw [orderKey?, if_pos undefined]

private theorem orderKey?_of_number {x : Binary32} (number : x.isNaN = false) :
    x.orderKey? = some x.signedMagnitude := by
  rw [orderKey?, number, if_neg Bool.false_ne_true, signedMagnitude]
  split <;> rfl

/-- Numbers are ordered by their signed magnitudes. -/
theorem order_of_numbers {x y : Binary32} (numberX : x.isNaN = false) (numberY : y.isNaN = false) :
    x.order y = compare x.signedMagnitude y.signedMagnitude := by
  rw [order_eq_compare_orderKey?, orderKey?_of_number numberX, orderKey?_of_number numberY]
  rfl

/-- One of the two zeros. -/
def IsZero (x : Binary32) : Prop := x = ofMagnitude false 0 ∨ x = ofMagnitude true 0

private theorem isZero_of_magnitude {x : Binary32} (zero : x.magnitude = 0) : x.IsZero := by
  rw [IsZero, ← x.ofMagnitude_magnitude, zero]
  cases x.isNegative
  · exact .inl rfl
  · exact .inr rfl

private theorem signedMagnitude_of_isZero {x : Binary32} (zero : x.IsZero) :
    x.signedMagnitude = 0 := by
  rcases zero with rfl | rfl <;> decide

private theorem eq_of_sign_magnitude {x y : Binary32} (sign : x.isNegative = y.isNegative)
    (magnitude : x.magnitude = y.magnitude) : x = y := by
  rw [← x.ofMagnitude_magnitude, ← y.ofMagnitude_magnitude, sign, magnitude]

/-- Only the zeros share their signed magnitude. -/
theorem signedMagnitude_eq_iff {x y : Binary32} :
    x.signedMagnitude = y.signedMagnitude ↔ x = y ∨ x.IsZero ∧ y.IsZero := by
  constructor
  · intro same
    unfold signedMagnitude at same
    by_cases zero : x.magnitude = 0
    · have zero' : y.magnitude = 0 := by
        split at same <;> split at same <;> omega
      exact .inr ⟨isZero_of_magnitude zero, isZero_of_magnitude zero'⟩
    · -- Opposite signs tell numbers other than zero apart.
      left
      cases sign : x.isNegative <;> cases sign' : y.isNegative <;>
        simp only [sign, sign', Bool.false_eq_true, ↓reduceIte] at same
      · exact eq_of_sign_magnitude (sign.trans sign'.symm) (Int.ofNat_inj.mp same)
      · omega
      · omega
      · exact eq_of_sign_magnitude (sign.trans sign'.symm) (Int.ofNat_inj.mp (Int.neg_inj.mp same))
  · rintro (rfl | ⟨zero, zero'⟩)
    · rfl
    · rw [signedMagnitude_of_isZero zero, signedMagnitude_of_isZero zero']

/-- **Equal numbers.** Two numbers are equal if they are the same or both of them are zeros. -/
theorem order_eq_eq_iff {x y : Binary32} (numberX : x.isNaN = false) (numberY : y.isNaN = false) :
    x.order y = .eq ↔ x = y ∨ x.IsZero ∧ y.IsZero := by
  rw [order_of_numbers numberX numberY, compare_eq_iff_eq, signedMagnitude_eq_iff]

/-- What is not a number is equal to all that is not a number. -/
theorem order_of_isNaN {x y : Binary32} (undefinedX : x.isNaN = true)
    (undefinedY : y.isNaN = true) : x.order y = .eq := by
  rw [order, orderKey?_of_isNaN undefinedX, orderKey?_of_isNaN undefinedY]

/-- What is not a number comes before every number. -/
theorem order_of_isNaN_of_number {x y : Binary32} (undefined : x.isNaN = true)
    (number : y.isNaN = false) : x.order y = .lt := by
  rw [order, orderKey?_of_isNaN undefined, orderKey?_of_number number]

end Binary32

/-! ## Floats and texts -/

/-- **Comparisons are total preorders.** Among floats, the patterns that are not numbers are equal
and below all numbers, and numbers are compared by value, so that two of them are equal only if
they are the same or both are zeros. Among texts, absent text is below all others, texts are equal
only to themselves, and the order is the lexicographic one of the encoded bytes as well as of the
code points. -/
theorem Value.comparisons_total_preorders :
    TotalPreorder Binary32.order ∧
    (∀ x y : Binary32,
      (x.isNaN = true → y.isNaN = true → x.order y = .eq) ∧
      (x.isNaN = true → y.isNaN = false → x.order y = .lt) ∧
      (x.isNaN = false → y.isNaN = false →
        x.order y = compare x.value y.value ∧
        (x.order y = .eq ↔ x = y ∨ x.IsZero ∧ y.IsZero))) ∧
    TotalPreorder textOrder ∧
    (∀ left right : Option String, textOrder left right = .eq → left = right) ∧
    ∀ left right : String,
      textOrder none (some left) = .lt ∧
      (textOrder (some left) (some right) = .lt ↔
        List.Lex (· < ·) left.toUTF8.data.toList right.toUTF8.data.toList) ∧
      (textOrder (some left) (some right) = .lt ↔
        List.Lex (· < ·) (codePoints left) (codePoints right)) := by
  refine ⟨.of_key Binary32.orderKey? Binary32.order_eq_compare_orderKey?, ?_,
    .of_key (Option.map utf8Bytes) textOrder_eq_compare, fun _ _ => eq_of_textOrder, ?_⟩
  · intro x y
    refine ⟨Binary32.order_of_isNaN, Binary32.order_of_isNaN_of_number, ?_⟩
    intro numberX numberY
    exact ⟨Binary32.order_eq_compare_value numberX numberY,
      Binary32.order_eq_eq_iff numberX numberY⟩
  · intro left right
    refine ⟨rfl, ?_, ?_⟩
    · rw [textOrder_eq_lt_iff, utf8Bytes_eq_toUTF8, utf8Bytes_eq_toUTF8, List.lex_lt]
    · rw [textOrder_eq_lt_iff, utf8Bytes_lt_iff, List.lex_lt]

/-- A pattern with sign and payload is equal to the quiet one and below the least number, the zeros
are equal, and a text of three bytes is below one of four. -/
theorem Value.comparisons_total_preorders_edges :
    (⟨0xffc00001⟩ : Binary32).isNaN = true ∧ Binary32.nan.isNaN = true ∧
      (Binary32.infinity true).isNaN = false ∧
      (⟨0xffc00001⟩ : Binary32).order Binary32.nan = .eq ∧
      (⟨0xffc00001⟩ : Binary32).order (Binary32.infinity true) = .lt ∧
      (Binary32.ofMagnitude false 0).order (Binary32.ofMagnitude true 0) = .eq ∧
      textOrder (some "\uffff") (some "😀") = .lt := by
  obtain ⟨-, floats, -, -, texts⟩ := Value.comparisons_total_preorders
  refine ⟨by decide, by decide, by decide, (floats _ _).1 (by decide) (by decide),
    (floats _ _).2.1 (by decide) (by decide), ?_, ?_⟩
  · exact ((floats _ _).2.2 (by decide) (by decide)).2.mpr (.inr ⟨.inl rfl, .inr rfl⟩)
  · exact (texts _ _).2.2.mpr (.rel (by decide))

end RowQuery
