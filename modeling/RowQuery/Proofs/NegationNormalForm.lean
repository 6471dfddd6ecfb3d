import RowQuery.Demo
import RowQuery.Proofs.ConditionMeaning
import RowQuery.Proofs.ShortCircuit

/-! # Negation normal form

A negation can be pushed down a condition until it meets the comparisons, and there it turns each
operator into its complement (`Condition.negationNormal`). A column and a literal that fits it stand
in one of three orders on every row, also where a value is not a number or absent. So the condition
without negations is lowered as well, and its predicate does the same on every row
(`Predicate.negationNormal_evaluates_alike`).
-/

namespace RowQuery

/-- The operator that accepts the orders which another one does not. -/
def Operator.complement : Operator → Operator
  | .equals => .notEqual
  | .notEqual => .equals
  | .lessThan => .greaterOrEqual
  | .greaterOrEqual => .lessThan
  | .greaterThan => .lessOrEqual
  | .lessOrEqual => .greaterThan

/-- The complement of an operator holds exactly where the operator does not. -/
theorem Operator.holds_complement (operator : Operator) (order : Ordering) :
    operator.complement.holds order = !operator.holds order := by
  cases operator <;> cases order <;> rfl

namespace Condition

/-- A condition, or its negation, with the negations pushed down to the comparisons. -/
def pushNegation : (negated : Bool) → Condition → Condition
  | false, .comparison name operator literal => .comparison name operator literal
  | true, .comparison name operator literal => .comparison name operator.complement literal
  | false, .and left right => .and (left.pushNegation false) (right.pushNegation false)
  | true, .and left right => .or (left.pushNegation true) (right.pushNegation true)
  | false, .or left right => .or (left.pushNegation false) (right.pushNegation false)
  | true, .or left right => .and (left.pushNegation true) (right.pushNegation true)
  | negated, .not inner => inner.pushNegation !negated

/-- The negation normal form of a condition. -/
def negationNormal (condition : Condition) : Condition := condition.pushNegation false

/-- Whether a condition has no negation anywhere. -/
def negationFree : Condition → Bool
  | .comparison _ _ _ => true
  | .and left right => left.negationFree && right.negationFree
  | .or left right => left.negationFree && right.negationFree
  | .not _ => false

/-- Pushed down to the comparisons, a negation is gone. -/
theorem negationFree_pushNegation (condition : Condition) (negated : Bool) :
    (condition.pushNegation negated).negationFree = true := by
  induction condition generalizing negated with
  | comparison name operator literal => cases negated <;> rfl
  | and left right ihLeft ihRight =>
      cases negated <;> simp only [pushNegation, negationFree, ihLeft, ihRight, Bool.and_self]
  | or left right ihLeft ihRight =>
      cases negated <;> simp only [pushNegation, negationFree, ihLeft, ihRight, Bool.and_self]
  | not inner ih =>
      rw [pushNegation]
      exact ih !negated

end Condition

private theorem Value.exists_order?_of_type_eq {value constant : Value}
    (same : value.type = constant.type) : ∃ order, value.order? constant = some order := by
  cases value <;> cases constant <;> cases same <;> exact ⟨_, rfl⟩

variable {R : Type}

private theorem Comparison.accepts_complement {unit : Comparison R} {value : Value}
    (same : value.type = unit.constant.type) :
    { unit with operator := unit.operator.complement }.accepts value = !unit.accepts value := by
  obtain ⟨order, compared⟩ := Value.exists_order?_of_type_eq same
  simp only [accepts, compared, Operator.holds_complement]

namespace Predicate

/-- Whether a predicate reads what another one reads on every row and comes to the same outcome, or
to the opposite one if it is negated. -/
def Mirrors (negated : Bool) (predicate mirror : Predicate R) : Prop :=
  ∀ row, mirror.evaluate row =
    ⟨negated ^^ (predicate.evaluate row).value, (predicate.evaluate row).reads⟩

/-- A negated comparison is mirrored by the one with the complement of its operator. -/
theorem mirrors_comparison {unit : Comparison R} (fits : unit.column.type = unit.constant.type)
    (negated : Bool) :
    Mirrors negated (.comparison unit) (.comparison { unit with
      operator := if negated then unit.operator.complement else unit.operator }) := by
  intro row
  rw [evaluate_comparison, evaluate_comparison]
  cases negated with
  | false => simp
  | true =>
      have value := (unit.column.type_value row).trans fits
      simp [Comparison.accepts_complement value]

section Junctions

variable {left right leftMirror rightMirror : Predicate R}

/-- The right side of a negated conjunction is evaluated when that of the disjunction of the
negations is: when the left side of the conjunction holds. -/
theorem Mirrors.and {negated : Bool} (mirrorsLeft : Mirrors negated left leftMirror)
    (mirrorsRight : Mirrors negated right rightMirror) :
    Mirrors negated (.and left right)
      (if negated then .or leftMirror rightMirror else .and leftMirror rightMirror) := by
  intro row
  cases negated <;>
    simp [evaluate_and, evaluate_or, mirrorsLeft row, mirrorsRight row]

/-- A negated disjunction is mirrored by the conjunction of the mirrored parts. -/
theorem Mirrors.or {negated : Bool} (mirrorsLeft : Mirrors negated left leftMirror)
    (mirrorsRight : Mirrors negated right rightMirror) :
    Mirrors negated (.or left right)
      (if negated then .and leftMirror rightMirror else .or leftMirror rightMirror) := by
  intro row
  cases negated <;>
    simp [evaluate_and, evaluate_or, mirrorsLeft row, mirrorsRight row]

end Junctions

variable [RowType R] {scope : Scope R}

/-- **Pushing negations down.** The induction is on the condition, for both signs at once: a
negation turns the sign for what it negates. -/
theorem lower_pushNegation {condition : Condition} {predicate : Predicate R}
    (lowered : lower scope condition = .ok predicate) (negated : Bool) :
    ∃ mirror, lower scope (condition.pushNegation negated) = .ok mirror ∧
      Mirrors negated predicate mirror := by
  induction condition generalizing predicate negated with
  | comparison name operator literal =>
      obtain ⟨column, constant, resolved, fits, rfl⟩ := lower_comparison_iff.mp lowered
      refine ⟨_, ?_, mirrors_comparison (Literal.type_constant? fits).symm negated⟩
      cases negated <;>
        exact lower_comparison_iff.mpr ⟨column, constant, resolved, fits, rfl⟩
  | and left right ihLeft ihRight =>
      obtain ⟨first, second, lowerFirst, lowerSecond, rfl⟩ := lower_and_iff.mp lowered
      obtain ⟨firstMirror, lowerLeft, mirrorsFirst⟩ := ihLeft lowerFirst negated
      obtain ⟨secondMirror, lowerRight, mirrorsSecond⟩ := ihRight lowerSecond negated
      refine ⟨_, ?_, mirrorsFirst.and mirrorsSecond⟩
      cases negated with
      | false => exact lower_and_iff.mpr ⟨_, _, lowerLeft, lowerRight, rfl⟩
      | true => exact lower_or_iff.mpr ⟨_, _, lowerLeft, lowerRight, rfl⟩
  | or left right ihLeft ihRight =>
      obtain ⟨first, second, lowerFirst, lowerSecond, rfl⟩ := lower_or_iff.mp lowered
      obtain ⟨firstMirror, lowerLeft, mirrorsFirst⟩ := ihLeft lowerFirst negated
      obtain ⟨secondMirror, lowerRight, mirrorsSecond⟩ := ihRight lowerSecond negated
      refine ⟨_, ?_, mirrorsFirst.or mirrorsSecond⟩
      cases negated with
      | false => exact lower_or_iff.mpr ⟨_, _, lowerLeft, lowerRight, rfl⟩
      | true => exact lower_and_iff.mpr ⟨_, _, lowerLeft, lowerRight, rfl⟩
  | not inner ih =>
      obtain ⟨negation, lowerInner, rfl⟩ := ok_of_map_eq_ok lowered
      obtain ⟨mirror, lowerMirror, mirrors⟩ := ih lowerInner !negated
      refine ⟨mirror, ?_, ?_⟩
      · rw [Condition.pushNegation]
        exact lowerMirror
      · intro row
        rw [mirrors row, evaluate_not, Bool.not_xor, Bool.xor_not]

/-- **Negations can be pushed down to the comparisons.** The negation normal form of a condition has
no negations, it is lowered if the condition is, and on every row the two predicates come to the
same outcome by the same reads, whatever is not a number or absent in the row. -/
theorem negationNormal_evaluates_alike (scope : Scope R) (condition : Condition)
    (predicate : Predicate R) (lowered : lower scope condition = .ok predicate) :
    condition.negationNormal.negationFree = true ∧
      ∃ normal, lower scope condition.negationNormal = .ok normal ∧
        ∀ row, normal.evaluate row = predicate.evaluate row := by
  obtain ⟨normal, lowerNormal, mirrors⟩ := lower_pushNegation lowered false
  refine ⟨condition.negationFree_pushNegation false, normal, lowerNormal, fun row => ?_⟩
  rw [mirrors row, Bool.false_xor]

end Predicate

/-- A condition with negations above and below its junctions. -/
def Demo.deniedCondition : Condition :=
  .not (.and (.comparison "Salary" .greaterOrEqual (.float Binary32.nan))
    (.not (.or (.comparison "team" .equals .null)
      (.not (.comparison "age" .lessThan (.integer 30))))))

/-- A negated condition over three columns, one of them compared with what is not a number. -/
theorem Predicate.negationNormal_evaluates_alike_denied :
    Demo.deniedCondition.negationNormal =
        .or (.comparison "Salary" .lessThan (.float Binary32.nan))
          (.or (.comparison "team" .equals .null)
            (.comparison "age" .greaterOrEqual (.integer 30))) ∧
      ∃ predicate, lower Demo.scope Demo.deniedCondition = .ok predicate ∧
        Demo.deniedCondition.negationNormal.negationFree = true ∧
        ∃ normal, lower Demo.scope Demo.deniedCondition.negationNormal = .ok normal ∧
          ∀ row, normal.evaluate row = predicate.evaluate row := by
  have lowers : (lower Demo.scope Demo.deniedCondition).isOk = true := by decide +kernel
  refine ⟨rfl, ?_⟩
  cases lowered : lower Demo.scope Demo.deniedCondition with
  | error cause =>
      rw [lowered] at lowers
      cases lowers
  | ok predicate =>
      exact ⟨predicate, rfl,
        negationNormal_evaluates_alike Demo.scope Demo.deniedCondition predicate lowered⟩

end RowQuery
