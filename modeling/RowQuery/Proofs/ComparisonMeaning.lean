import RowQuery.Predicate
import RowQuery.Proofs.FloatFields
import RowQuery.Proofs.TextOrder

/-! # The meaning of a comparison

What a comparison says can be told without the way in which it is computed. An operator is a
relation of a linear order (`Operator.Relates`). A float is the rational number that the fields of
its pattern encode, or one of the infinities, or else below all of them (`Binary32.decoded`). A
whole number that is compared with floats is rounded to 24 binary digits (`Binary32.widened`), and a
text is the list of its code points. With these meanings a value and a literal are related or not
(`Value.meets`), which is what the comparison of the value with the constant of the literal finds
(`Value.any_order?_constant?`).
-/

namespace RowQuery

/-! ## Operators -/

namespace Operator

variable {α : Type}

/-- The relation that an operator stands for. -/
def Relates [LT α] [LE α] : Operator → α → α → Prop
  | .equals, left, right => left = right
  | .greaterThan, left, right => right < left
  | .lessThan, left, right => left < right
  | .greaterOrEqual, left, right => right ≤ left
  | .lessOrEqual, left, right => left ≤ right
  | .notEqual, left, right => left ≠ right

instance [LinearOrder α] (operator : Operator) (left right : α) :
    Decidable (operator.Relates left right) :=
  match operator with
  | .equals => inferInstanceAs (Decidable (left = right))
  | .greaterThan => inferInstanceAs (Decidable (right < left))
  | .lessThan => inferInstanceAs (Decidable (left < right))
  | .greaterOrEqual => inferInstanceAs (Decidable (right ≤ left))
  | .lessOrEqual => inferInstanceAs (Decidable (left ≤ right))
  | .notEqual => inferInstanceAs (Decidable (left ≠ right))

/-- An operator accepts the order of two elements if it relates them. -/
theorem holds_compare_iff [LinearOrder α] (operator : Operator) (left right : α) :
    operator.holds (compare left right) = true ↔ operator.Relates left right := by
  cases operator <;>
    simp only [holds, Relates, decide_eq_true_eq, ne_eq, compare_lt_iff_lt, compare_gt_iff_gt,
      compare_eq_iff_eq, not_lt]

/-- An operator accepts an order that is found by comparing keys if it relates the keys. -/
theorem holds_of_key [LinearOrder α] (operator : Operator) {order : Ordering} {left right : α}
    (keyed : order = compare left right) :
    operator.holds order = decide (operator.Relates left right) := by
  rw [keyed, Bool.eq_iff_iff, holds_compare_iff, decide_eq_true_eq]

end Operator

/-! ## Whole numbers among floats -/

namespace Binary32

/-- What a whole number stands for when it is compared with floats. -/
def widened (whole : Int) : Extended := exactly (signedTo24 whole)

/-- The float nearest to a whole number of 32 bits encodes its first 24 digits. -/
theorem decoded_ofInt (whole : Int32) : (ofInt whole.toInt).decoded = widened whole.toInt := by
  have least := whole.le_toInt
  have greatest := whole.toInt_lt
  rw [decoded_of_number (isNaN_ofInt _), value_ofInt (by omega), widened, exactly]

end Binary32

/-! ## Texts -/

/-- What a text stands for when it is compared: nothing, which comes first, or its code points. -/
def textRank : Option String → WithBot (List Nat)
  | none => ⊥
  | some text => (codePoints text : List Nat)

/-- **Texts are ordered by their code points.** -/
theorem textOrder_eq_compare_textRank (left right : Option String) :
    textOrder left right = compare (textRank left) (textRank right) := by
  match left, right with
  | none, none => exact (compare_eq_iff_eq.mpr rfl).symm
  | none, some right => exact (compare_lt_iff_lt.mpr (WithBot.bot_lt_coe _)).symm
  | some left, none => exact (compare_gt_iff_gt.mpr (WithBot.bot_lt_coe _)).symm
  | some left, some right =>
      have before (first second : String) (less : textOrder (some first) (some second) = .lt) :
          codePoints first < codePoints second :=
        (utf8Bytes_lt_iff first second).mp ((textOrder_eq_lt_iff first second).mp less)
      rw [textRank, textRank, compare_coe]
      cases order : textOrder (some left) (some right) with
      | lt => exact (compare_lt_iff_lt.mpr (before left right order)).symm
      | eq =>
          cases eq_of_textOrder order
          exact (compare_eq_iff_eq.mpr rfl).symm
      | gt =>
          have reversed : textOrder (some right) (some left) = .lt := by
            rw [textOrder_eq_compare] at order ⊢
            exact Std.OrientedCmp.gt_iff_lt.mp order
          exact (compare_gt_iff_gt.mpr (before right left reversed)).symm

/-! ## Values -/

/-- Whether an operator relates a value to a literal. Values and literals of different kinds are not
related, except that a float is compared with a whole number after widening it. -/
def Value.meets (operator : Operator) : Value → Literal → Bool
  | .integer value, .integer literal => decide (operator.Relates value.toInt literal.toInt)
  | .float value, .integer literal =>
    decide (operator.Relates value.decoded (Binary32.widened literal.toInt))
  | .float value, .float literal => decide (operator.Relates value.decoded literal.decoded)
  | .boolean value, .boolean literal => decide (operator.Relates value literal)
  | .text value, .string literal =>
    decide (operator.Relates (textRank value) (textRank (some literal)))
  | .text value, .null => decide (operator.Relates (textRank value) (textRank none))
  | _, _ => false

/-- **Comparisons mean what they should.** An operator accepts the order of a value and the constant
of a literal exactly if it relates the value to the literal. -/
theorem Value.any_order?_constant? {value constant : Value} {literal : Literal}
    (fits : literal.constant? value.type = some constant) (operator : Operator) :
    (value.order? constant).any operator.holds = value.meets operator literal := by
  cases value <;> cases literal <;> cases fits
  · exact operator.holds_of_key rfl
  · refine operator.holds_of_key ?_
    rw [Binary32.order_eq_compare_decoded, Binary32.decoded_ofInt]
  · exact operator.holds_of_key (Binary32.order_eq_compare_decoded _ _)
  · exact operator.holds_of_key rfl
  · exact operator.holds_of_key (textOrder_eq_compare_textRank _ _)
  · exact operator.holds_of_key (textOrder_eq_compare_textRank _ _)

end RowQuery
