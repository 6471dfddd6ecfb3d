import RowQuery.Proofs.ConditionMeaning

/-! # Filters of float columns by whole numbers

A whole number that is compared with a float column is widened to the nearest float first. A range
filter stays monotone in its bound: with a wider bound it passes every row that it passed before.
For bounds up to `2 ^ 24` every operator compares the exact values
(`Column.widening_monotone_and_exact`).
-/

namespace RowQuery

namespace Binary32

/-- A float and a whole number are ordered by their keys, and what is not a number comes first. -/
theorem order_ofInt_eq_elim (x : Binary32) (whole : Int) :
    x.order (ofInt whole) = x.orderKey?.elim .lt fun key => compare key (keyOf whole) := by
  rw [order, orderKey?_ofInt]
  cases x.orderKey? <;> rfl

/-- **Range filters are monotone.** A float that reaches the greater of two bounds reaches the
smaller one, and one that stays below the smaller stays below the greater. -/
theorem range_mono (x : Binary32) {low high : Int} (le : low ≤ high) :
    (Operator.greaterOrEqual.holds (x.order (ofInt high)) = true →
      Operator.greaterOrEqual.holds (x.order (ofInt low)) = true) ∧
    (Operator.greaterThan.holds (x.order (ofInt high)) = true →
      Operator.greaterThan.holds (x.order (ofInt low)) = true) ∧
    (Operator.lessOrEqual.holds (x.order (ofInt low)) = true →
      Operator.lessOrEqual.holds (x.order (ofInt high)) = true) ∧
    (Operator.lessThan.holds (x.order (ofInt low)) = true →
      Operator.lessThan.holds (x.order (ofInt high)) = true) := by
  have keys := keyOf_mono le
  rw [order_ofInt_eq_elim, order_ofInt_eq_elim]
  cases x.orderKey? with
  | none => simp [Operator.holds]
  | some key =>
      simp only [Option.elim_some, Operator.holds_compare_iff, Operator.Relates]
      exact ⟨fun reaches => keys.trans reaches, fun exceeds => lt_of_le_of_lt keys exceeds,
        fun within => within.trans keys, fun below => lt_of_lt_of_le below keys⟩

end Binary32

variable {R : Type}

/-- Whether a row passes the comparison of a column with a literal, if they can be compared. -/
def Column.passes? (column : Column R) (identifier : String) (operator : Operator)
    (literal : Literal) (row : R) : Option Bool :=
  (Comparison.make identifier column operator literal).toOption.map fun unit =>
    (unit.evaluate row).value

private theorem Column.exists_float {column : Column R} (float : column.type = .float) (row : R) :
    ∃ x, column.value row = .float x := by
  have typed := column.type_value row
  rw [float] at typed
  cases held : column.value row <;> rw [held] at typed <;> cases typed
  exact ⟨_, rfl⟩

/-- A whole number is widened once, when the comparison is made. -/
theorem Comparison.make_integer {column : Column R} (float : column.type = .float)
    (identifier : String) (operator : Operator) (whole : Int32) :
    Comparison.make identifier column operator (.integer whole) =
      .ok ⟨identifier, column, operator, .integer whole, .float (Binary32.ofInt whole.toInt)⟩ := by
  have specialized : column.specialize (.integer whole) =
      .ok (.float (Binary32.ofInt whole.toInt)) := by
    rw [Column.specialize, float]
    rfl
  rw [make, specialized]
  exact if_pos float

/-- A float column compares a whole number by the float that it is widened to. -/
theorem Column.passes?_integer {column : Column R} (float : column.type = .float) {row : R}
    {x : Binary32} (held : column.value row = .float x) (identifier : String)
    (operator : Operator) (whole : Int32) :
    column.passes? identifier operator (.integer whole) row =
      some (operator.holds (x.order (Binary32.ofInt whole.toInt))) := by
  rw [passes?, Comparison.make_integer float]
  change some (Comparison.accepts _ (column.value row)) = _
  rw [held]
  rfl

/-- **Widened literals.** Every whole number can be compared with a float column, whatever the
column holds in a row. With a wider bound a range filter passes the row if it did before. Up to
`2 ^ 24` an operator accepts a value that is a number exactly if the value itself, be it infinite,
is in the operator's relation to the whole number. -/
theorem Column.widening_monotone_and_exact (column : Column R) (float : column.type = .float)
    (identifier : String) (row : R) :
    ∃ x : Binary32, column.value row = .float x ∧
      (∀ (operator : Operator) (whole : Int32),
        (column.passes? identifier operator (.integer whole) row).isSome = true) ∧
      (∀ low high : Int32, low.toInt ≤ high.toInt →
        (column.passes? identifier .greaterOrEqual (.integer high) row = some true →
          column.passes? identifier .greaterOrEqual (.integer low) row = some true) ∧
        (column.passes? identifier .greaterThan (.integer high) row = some true →
          column.passes? identifier .greaterThan (.integer low) row = some true) ∧
        (column.passes? identifier .lessOrEqual (.integer low) row = some true →
          column.passes? identifier .lessOrEqual (.integer high) row = some true) ∧
        (column.passes? identifier .lessThan (.integer low) row = some true →
          column.passes? identifier .lessThan (.integer high) row = some true)) ∧
      ∀ whole : Int32, x.isNaN = false → whole.toInt.natAbs ≤ 2 ^ 24 →
        ∀ operator : Operator, column.passes? identifier operator (.integer whole) row = some true ↔
          operator.Relates x.value (((whole.toInt : ℚ) : WithTop ℚ) : WithBot (WithTop ℚ)) := by
  obtain ⟨x, held⟩ := Column.exists_float float row
  refine ⟨x, held, ?_, ?_, ?_⟩
  · intro operator whole
    rw [Column.passes?_integer float held, Option.isSome_some]
  · intro low high le
    simp only [Column.passes?_integer float held, Option.some_inj]
    exact x.range_mono le
  · intro whole number small operator
    rw [Column.passes?_integer float held, Option.some_inj, Binary32.order_ofInt number small,
      Operator.holds_compare_iff]

/-- The only column of rows that are single floats. -/
def Column.itself : Column Binary32 := ⟨"ratio", 0, .float id⟩

/-- The first whole number that is rounded becomes the one before it, which the row holds: the row
reaches both bounds, and it is equal to the exact one. -/
theorem Column.widening_monotone_and_exact_collapsed :
    Column.itself.type = .float ∧ (16777216 : Int32).toInt ≤ (16777217 : Int32).toInt ∧
      (Binary32.ofInt 16777216).isNaN = false ∧ (16777216 : Int32).toInt.natAbs ≤ 2 ^ 24 ∧
      Column.itself.passes? "ratio" .greaterOrEqual (.integer 16777217) (Binary32.ofInt 16777216) =
        some true ∧
      Column.itself.passes? "ratio" .greaterOrEqual (.integer 16777216) (Binary32.ofInt 16777216) =
        some true ∧
      (Column.itself.passes? "ratio" .equals (.integer 16777216) (Binary32.ofInt 16777216) =
          some true ↔
        Operator.equals.Relates (Binary32.ofInt 16777216).value
          ((((16777216 : Int32).toInt : ℚ) : WithTop ℚ) : WithBot (WithTop ℚ))) := by
  obtain ⟨x, held, -, range, exact⟩ := Column.widening_monotone_and_exact Column.itself rfl "ratio"
    (Binary32.ofInt 16777216)
  cases held
  have rounded : Column.itself.passes? "ratio" .greaterOrEqual (.integer 16777217)
      (Binary32.ofInt 16777216) = some true := by decide +kernel
  have number : (Binary32.ofInt 16777216).isNaN = false := by decide +kernel
  exact ⟨rfl, by decide, number, by decide, rounded, (range _ _ (by decide)).1 rounded,
    exact _ number (by decide) _⟩

end RowQuery
