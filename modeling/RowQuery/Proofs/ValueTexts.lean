import RowQuery.Proofs.FewestDigits
import RowQuery.Value

/-! # The texts of values

What a value looks like in a result: whole numbers in decimal, truth values as words, texts as they
are, absent text as `NULL`, and floats in plain positional notation with the fewest digits that
round to them (`Value.ShownAs`). The cells of a table are these texts (`Value.shownAs_tableText`).
-/

namespace RowQuery

/-- The digits before the point, and if there are any after it, the point and these. -/
def pointed (whole fraction : List Char) : List Char :=
  whole ++ if fraction = [] then [] else '.' :: fraction

/-- Whether digits before and after a point write a number without zeros that could be left out. -/
structure Positional (whole fraction : List Char) (number : ℚ) : Prop where
  /-- There are only digits. -/
  digits : ∀ c ∈ whole ++ fraction, c.isDigit = true
  /-- There is a digit before the point. -/
  present : whole ≠ []
  /-- Only the digit of zero itself is a zero at the front. -/
  leads : whole.head? = some '0' → whole = ['0']
  /-- There is no zero at the end after the point. -/
  ends : fraction.getLast? ≠ some '0'
  /-- Without the point, the digits are those of the number as many powers of ten higher. -/
  counts : (Nat.ofDigitChars 10 (whole ++ fraction) 0 : ℚ) = number * 10 ^ fraction.length

/-- Whether a text is the one that a float is shown with. -/
structure Binary32.ShownAs (x : Binary32) (text : String) : Prop where
  /-- What is not a number has one text, whatever its sign and its fraction. -/
  undefined : x.exponentField = 255 → x.fractionField ≠ 0 → text = "NaN"
  infinite : x.exponentField = 255 → x.fractionField = 0 →
    text = if x.signField = 1 then "-inf" else "inf"
  /-- A finite number is written with its shortest decimal, behind its sign. -/
  finite : x.exponentField ≠ 255 → ∃ decimal whole fraction, x.IsShortest decimal ∧
    Positional whole fraction decimal.value ∧
    text = String.ofList ((if x.signField = 1 then ['-'] else []) ++ pointed whole fraction)

/-- Whether a text is the one that a value is shown with. -/
inductive Value.ShownAs : Value → String → Prop where
  | integer (number : Int32) : ShownAs (.integer number) (toString number.toInt)
  | float {x : Binary32} {text : String} (shown : x.ShownAs text) : ShownAs (.float x) text
  | boolean (truth : Bool) : ShownAs (.boolean truth) (if truth then "true" else "false")
  | content (text : String) : ShownAs (.text (some text)) text
  | absent : ShownAs (.text none) "NULL"

/-! ## Whole numbers -/

namespace Text

/-- Natural numbers are written in decimal. -/
theorem natText_eq_toString (number : Nat) : natText number = toString number := rfl

/-- Integers are written in decimal, behind a minus sign if they are negative. -/
theorem intText_eq_toString (number : Int) : intText number = toString number := by
  cases number with
  | ofNat number => rfl
  | negSucc number =>
      rw [intText, intChars, if_pos (Int.negSucc_lt_zero number)]
      exact String.ofList_cons

end Text

/-! ## Positional notation -/

namespace Numeral

/-- The digits of a number other than zero do not start with a zero. -/
theorem head?_digits_ne {number : Nat} (nonzero : number ≠ 0) :
    (Text.digits number).head? ≠ some '0' := by
  intro zero
  obtain ⟨rest, spelled⟩ := List.head?_eq_some_iff.mp zero
  have digits : ∀ c ∈ rest, c.isDigit = true := fun c member =>
    @isDigit_of_mem_digits number c (by rw [spelled]; exact List.mem_cons_of_mem _ member)
  have value := digitsValue_digits number
  have bounds := (@Decimal.value_bounds ⟨number, 0⟩ nonzero).1
  have under := digitsValue_lt digits
  rw [spelled, digitsValue_cons, show digitValue '0' = 0 from rfl, Nat.mul_zero, Nat.zero_add]
    at value
  rw [Decimal.leading, Decimal.value, spelled, List.length_cons, zpow_zero, mul_one,
    show (0 : Int) + ((rest.length + 1 : ℕ) : Int) - 1 = (rest.length : ℕ) by omega,
    zpow_natCast] at bounds
  have least : 10 ^ rest.length ≤ number := by exact_mod_cast bounds
  omega

/-- The digits of a number that is not a multiple of ten do not end in a zero. -/
theorem getLast?_digits_ne {number : Nat} (last : number % 10 ≠ 0) :
    (Text.digits number).getLast? ≠ some '0' := by
  intro zero
  obtain ⟨front, spelled⟩ := List.getLast?_eq_some_iff.mp zero
  have value := digitsValue_digits number
  rw [spelled, digitsValue_append, show digitsValue ['0'] = 0 from rfl] at value
  simp only [List.length_singleton, Nat.pow_one] at value
  omega

end Numeral

namespace Decimal

/-- A decimal that does not end in a zero is written without needless zeros. -/
theorem positional_of_mod {decimal : Decimal} (trimmed : decimal.digits % 10 ≠ 0) :
    Positional decimal.wholeChars decimal.fractionChars decimal.value where
  digits := List.forall_mem_append.mpr ⟨isDigit_of_mem_wholeChars, isDigit_of_mem_fractionChars⟩
  present := decimal.wholeChars_ne_nil
  leads := by
    have front := Numeral.head?_digits_ne (show decimal.digits ≠ 0 by omega)
    have nonempty : Text.digits decimal.digits ≠ [] := Nat.toDigits_ne_nil
    intro zero
    simp only [wholeChars] at zero ⊢
    split at zero
    · rw [List.head?_append_of_ne_nil _ nonempty] at zero
      exact absurd zero front
    · split at zero
      · rw [List.head?_take, if_neg (by omega)] at zero
        exact absurd zero front
      · rename_i fractional outside
        rw [if_neg fractional, if_neg outside]
  ends := by
    have back := Numeral.getLast?_digits_ne trimmed
    have nonempty : Text.digits decimal.digits ≠ [] := Nat.toDigits_ne_nil
    simp only [fractionChars]
    split
    · exact (Option.some_ne_none _).symm
    · split
      · rwa [List.getLast?_drop, if_neg (by omega)]
      · rwa [List.getLast?_append_of_ne_nil _ nonempty]
  counts := decimal.digitsValue_positional

/-- Zero is written as one digit. -/
theorem positional_zero : Positional (mk 0 0).wholeChars (mk 0 0).fractionChars (mk 0 0).value where
  digits := List.forall_mem_append.mpr ⟨isDigit_of_mem_wholeChars, isDigit_of_mem_fractionChars⟩
  present := wholeChars_ne_nil _
  leads _ := rfl
  ends := (Option.some_ne_none _).symm
  counts := (mk 0 0).digitsValue_positional

end Decimal

namespace Binary32

/-- The shortest decimal of a number is written without needless zeros. -/
theorem positional_shortest {x : Binary32} (finite : x.magnitude < infinityPattern) :
    Positional (x.shortest .up).wholeChars (x.shortest .up).fractionChars
      (x.shortest .up).value := by
  by_cases zero : x.magnitude = 0
  · rw [shortest, if_pos zero]
    exact Decimal.positional_zero
  · have bounds := value_bounds_of_contains zero finite (shortest_contains .up zero)
    refine Decimal.positional_of_mod ?_
    rw [shortest, if_neg zero] at bounds ⊢
    refine trim_mod fun digitless => ?_
    rw [Decimal.trim, value_dropZeros, Decimal.value, digitless, Nat.cast_zero, zero_mul] at bounds
    exact absurd bounds.1 (not_lt.mpr (zpow_pos (by norm_num) _).le)

/-- **Floats in results** are shown as they should. -/
theorem shownAs_render (x : Binary32) : x.ShownAs (x.render .table) := by
  have fields := x.magnitude_eq_fields
  have short := x.fractionField_lt
  have negative := x.signField_eq_one_iff
  have exponent : x.exponentField < 2 ^ 8 := Nat.mod_lt _ (by decide)
  refine ⟨fun highest nonzero => ?_, fun highest zero => ?_, fun lower => ?_⟩
  · have undefined : x.isNaN = true := by
      rw [isNaN, decide_eq_true_eq, infinityPattern]
      omega
    rw [render, if_pos undefined]
    rfl
  · have infinite : x.magnitude = infinityPattern := by
      rw [infinityPattern]
      omega
    rw [render, isNaN, isInfinite, infinite]
    simp only [negative]
    rfl
  · have finite : x.magnitude < infinityPattern := by
      rw [infinityPattern]
      omega
    refine ⟨_, _, _, isShortest_shortest finite, positional_shortest finite, ?_⟩
    have body : x.bodyChars .table =
        pointed (x.shortest .up).wholeChars (x.shortest .up).fractionChars :=
      Decimal.positionalChars_eq false (x.shortest .up)
    rw [render_of_finite .table finite, body]
    simp only [negative]
    split <;> rfl

end Binary32

/-- **Cells of a table.** -/
theorem Value.shownAs_tableText (value : Value) : value.ShownAs value.tableText := by
  cases value with
  | integer number =>
      rw [tableText, Text.intText_eq_toString]
      exact .integer number
  | float x => exact .float x.shownAs_render
  | boolean truth => cases truth <;> constructor
  | text content => cases content <;> constructor

end RowQuery
