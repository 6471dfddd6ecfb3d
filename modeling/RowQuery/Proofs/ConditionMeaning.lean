import RowQuery.Proofs.ComparisonMeaning

/-! # The meaning of a condition

A condition can be interpreted directly on a row of a schema: every name is looked up, the value of
its column is related to the literal or not (`Value.meets`), and the outcomes are joined
(`Condition.holds`). The predicate of a condition, with its names resolved and its literals
converted beforehand, holds of the same rows (`Predicate.value_evaluate_of_lower`).
-/

namespace RowQuery

/-! ## Steps that succeed -/

section Success

variable {ε ε' α β : Type}

/-- If a step and the next one succeed together, both do. -/
theorem ok_of_bind_eq_ok {first : Except ε α} {next : α → Except ε β} {result : β}
    (succeeds : first >>= next = .ok result) :
    ∃ value, first = .ok value ∧ next value = .ok result := by
  cases first with
  | ok value => exact ⟨value, rfl, succeeds⟩
  | error cause => cases succeeds

/-- Changing the value of a step does not make it succeed. -/
theorem ok_of_map_eq_ok {first : Except ε α} {change : α → β} {result : β}
    (succeeds : first.map change = .ok result) :
    ∃ value, first = .ok value ∧ result = change value := by
  cases first with
  | ok value => exact ⟨value, rfl, (Except.ok.inj succeeds).symm⟩
  | error cause => cases succeeds

/-- Changing the failure of a step does not make it succeed. -/
theorem ok_of_mapError_eq_ok {first : Except ε α} {change : ε → ε'} {value : α}
    (succeeds : first.mapError change = .ok value) : first = .ok value := by
  cases first with
  | ok found => exact congrArg Except.ok (Except.ok.inj succeeds)
  | error cause => cases succeeds

end Success

/-! ## Interpreting conditions -/

variable {R : Type}

/-- Whether a condition holds of a row, read off the condition itself. -/
def Condition.holds (schema : Schema R) (row : R) : Condition → Bool
  | .comparison name operator literal =>
    (schema.find? name).any fun column => (column.value row).meets operator literal
  | .and left right => left.holds schema row && right.holds schema row
  | .or left right => left.holds schema row || right.holds schema row
  | .not inner => !inner.holds schema row

/-! ## Lowering -/

/-- The values of a column are of its type. -/
theorem Column.type_value (column : Column R) (row : R) :
    (column.value row).type = column.type := by
  unfold value type fieldType
  cases column.accessor <;> rfl

/-- The constant of a literal is of the type that it was made for. -/
theorem Literal.type_constant? {literal : Literal} {type : ValueType} {constant : Value}
    (found : literal.constant? type = some constant) : constant.type = type := by
  cases type <;> cases literal <;> cases found <;> rfl

variable [RowType R]

/-- A name resolves to the column that its schema has under it. -/
theorem Scope.resolve_eq_ok_iff {scope : Scope R} {name : String} {column : Column R} :
    scope.resolve name = .ok column ↔
      ∃ schema, scope.registered = some schema ∧ schema.find? name = some column := by
  unfold resolve Scope.schema
  cases registered : scope.registered with
  | none => simp
  | some schema => cases found : schema.find? name <;> simp [found]

namespace Predicate

variable {scope : Scope R} {left right : Condition} {predicate : Predicate R}

/-- The predicate of a comparison compares the resolved column with the literal's constant. -/
theorem lower_comparison_iff {name : String} {operator : Operator} {literal : Literal} :
    lower scope (.comparison name operator literal) = .ok predicate ↔
      ∃ column constant, scope.resolve name = .ok column ∧
        literal.constant? column.type = some constant ∧
        predicate = .comparison ⟨name, column, operator, literal, constant⟩ := by
  constructor
  · intro lowered
    unfold lower at lowered
    split at lowered
    · cases lowered
    · rename_i column resolved
      obtain ⟨unit, made, rfl⟩ := ok_of_map_eq_ok lowered
      unfold Comparison.make Column.specialize at made
      cases fitted : literal.constant? column.type with
      | none =>
          rw [fitted] at made
          cases made
      | some constant =>
          rw [fitted] at made
          simp only at made
          split at made
          · cases made
            exact ⟨column, constant, resolved, fitted, rfl⟩
          · cases made
  · rintro ⟨column, constant, resolved, fits, rfl⟩
    unfold lower Comparison.make Column.specialize
    simp only [resolved, fits, Literal.type_constant? fits, ↓reduceIte]
    rfl

/-- The predicate of a conjunction is the conjunction of the predicates. -/
theorem lower_and_iff : lower scope (.and left right) = .ok predicate ↔
    ∃ first second, lower scope left = .ok first ∧ lower scope right = .ok second ∧
      predicate = .and first second := by
  constructor
  · intro lowered
    obtain ⟨first, lowerFirst, lowered⟩ := ok_of_bind_eq_ok lowered
    obtain ⟨second, lowerSecond, lowered⟩ := ok_of_bind_eq_ok lowered
    exact ⟨first, second, lowerFirst, lowerSecond, (Except.ok.inj lowered).symm⟩
  · rintro ⟨first, second, lowerFirst, lowerSecond, rfl⟩
    rw [lower, lowerFirst, lowerSecond]
    rfl

/-- The predicate of a disjunction is the disjunction of the predicates. -/
theorem lower_or_iff : lower scope (.or left right) = .ok predicate ↔
    ∃ first second, lower scope left = .ok first ∧ lower scope right = .ok second ∧
      predicate = .or first second := by
  constructor
  · intro lowered
    obtain ⟨first, lowerFirst, lowered⟩ := ok_of_bind_eq_ok lowered
    obtain ⟨second, lowerSecond, lowered⟩ := ok_of_bind_eq_ok lowered
    exact ⟨first, second, lowerFirst, lowerSecond, (Except.ok.inj lowered).symm⟩
  · rintro ⟨first, second, lowerFirst, lowerSecond, rfl⟩
    rw [lower, lowerFirst, lowerSecond]
    rfl

/-- **Lowering keeps the meaning.** The predicate of a condition holds of exactly the rows of which
the condition holds. -/
theorem value_evaluate_of_lower {schema : Schema R}
    (registered : scope.registered = some schema) {condition : Condition}
    (lowered : lower scope condition = .ok predicate) (row : R) :
    (predicate.evaluate row).value = condition.holds schema row := by
  induction condition generalizing predicate with
  | comparison name operator literal =>
      obtain ⟨column, constant, resolved, fits, rfl⟩ := lower_comparison_iff.mp lowered
      obtain ⟨other, same, found⟩ := Scope.resolve_eq_ok_iff.mp resolved
      cases registered.symm.trans same
      rw [← column.type_value row] at fits
      have compared := Value.any_order?_constant? fits operator
      simp only [evaluate, Comparison.evaluate, Traced.value_bind, Traced.value_pure,
        Comparison.accepts, Column.read, Condition.holds, found, Option.any_some, ← compared]
      cases (column.value row).order? constant <;> rfl
  | and left right ihLeft ihRight =>
      obtain ⟨first, second, lowerFirst, lowerSecond, rfl⟩ := lower_and_iff.mp lowered
      rw [evaluate, Traced.value_bind, ihLeft lowerFirst, Condition.holds]
      cases left.holds schema row with
      | true => simpa using ihRight lowerSecond
      | false => rfl
  | or left right ihLeft ihRight =>
      obtain ⟨first, second, lowerFirst, lowerSecond, rfl⟩ := lower_or_iff.mp lowered
      rw [evaluate, Traced.value_bind, ihLeft lowerFirst, Condition.holds]
      cases left.holds schema row with
      | true => rfl
      | false => simpa using ihRight lowerSecond
  | not inner ih =>
      obtain ⟨negated, lowerInner, rfl⟩ := ok_of_map_eq_ok lowered
      rw [evaluate, Traced.value_bind, Traced.value_pure, ih lowerInner, Condition.holds]

end Predicate

end RowQuery
