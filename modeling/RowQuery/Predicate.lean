import RowQuery.QueryError
import RowQuery.Trace

/-! # Predicates on rows

A predicate is a condition whose columns are resolved and whose literals have become constants of
their columns' types. It reads columns from left to right and no further than its outcome needs.
-/

namespace RowQuery

/-- A column of a row compared with a constant of its type. -/
structure Comparison (R : Type) where
  /-- The column's name as written in the query. -/
  identifier : String
  /-- The column. -/
  column : Column R
  /-- The operator. -/
  operator : Operator
  /-- The literal as written in the query. -/
  literal : Literal
  /-- The value of the literal for the column. -/
  constant : Value

/-- A condition on rows, ready to be evaluated. -/
inductive Predicate (R : Type) where
  /-- A comparison. -/
  | comparison (unit : Comparison R)
  /-- Both predicates hold. -/
  | and (left right : Predicate R)
  /-- One of the predicates holds. -/
  | or (left right : Predicate R)
  /-- The predicate fails. -/
  | not (inner : Predicate R)

/-- The value of a literal for a column of some type: whole numbers widen to floats, text may be
absent, and nothing else is converted. -/
def Literal.constant? : ValueType → Literal → Option Value
  | .integer, .integer value => some (.integer value)
  | .float, .integer value => some (.float (Binary32.ofInt value.toInt))
  | .float, .float value => some (.float value)
  | .boolean, .boolean value => some (.boolean value)
  | .text, .string value => some (.text (some value))
  | .text, .null => some (.text none)
  | _, _ => none

variable {R : Type}

/-- The value of a literal that is compared with a column. -/
def Column.specialize (column : Column R) (literal : Literal) : Except QueryError Value :=
  match literal.constant? column.type with
  | some constant => .ok constant
  | none => .error (.typeMismatch column.type column.name literal)

namespace Comparison

/-- The comparison of a column with a literal that fits it. -/
def make (identifier : String) (column : Column R) (operator : Operator) (literal : Literal) :
    Except QueryError (Comparison R) :=
  match column.specialize literal with
  | .error cause => .error cause
  | .ok constant =>
    if column.type = constant.type then .ok ⟨identifier, column, operator, literal, constant⟩
    else .error (.unsupportedOperator operator column.type column.name)

/-- Whether a value passes the comparison. -/
def accepts (unit : Comparison R) (value : Value) : Bool :=
  match value.order? unit.constant with
  | some order => unit.operator.holds order
  | none => false

/-- Whether a row passes the comparison; its column is read once. -/
def evaluate (unit : Comparison R) (row : R) : Traced R Bool := do
  let value ← unit.column.read row
  return unit.accepts value

/-- A comparison as query text. -/
def text (unit : Comparison R) : String :=
  Condition.comparisonText unit.identifier unit.operator unit.literal

end Comparison

namespace Predicate

/-- The predicate of a condition. Names are resolved and literals are fitted from left to right,
and the first failure is reported. -/
def lower [RowType R] (scope : Scope R) : Condition → Except QueryError (Predicate R)
  | .comparison name operator literal =>
    match scope.resolve name with
    | .error cause => .error (.catalog cause)
    | .ok column => (Comparison.make name column operator literal).map .comparison
  | .and left right => do
    let left ← lower scope left
    let right ← lower scope right
    return .and left right
  | .or left right => do
    let left ← lower scope left
    let right ← lower scope right
    return .or left right
  | .not inner => (lower scope inner).map .not

/-- Whether a row meets the predicate. The right side of a conjunction or disjunction is evaluated
only when the left side does not settle it. -/
def evaluate : Predicate R → R → Traced R Bool
  | .comparison unit, row => unit.evaluate row
  | .and left right, row => do
    if ← left.evaluate row then right.evaluate row else pure false
  | .or left right, row => do
    if ← left.evaluate row then pure true else right.evaluate row
  | .not inner, row => do
    let value ← inner.evaluate row
    return !value

/-- The comparisons from left to right. -/
def units : Predicate R → List (Comparison R)
  | .comparison unit => [unit]
  | .and left right => left.units ++ right.units
  | .or left right => left.units ++ right.units
  | .not inner => inner.units

/-- The condition that a predicate came from. -/
def toCondition : Predicate R → Condition
  | .comparison unit => .comparison unit.identifier unit.operator unit.literal
  | .and left right => .and left.toCondition right.toCondition
  | .or left right => .or left.toCondition right.toCondition
  | .not inner => .not inner.toCondition

/-- A predicate as query text. -/
def text : Predicate R → String
  | .comparison unit => unit.text
  | .and left right => "(" ++ left.text ++ " AND " ++ right.text ++ ")"
  | .or left right => "(" ++ left.text ++ " OR " ++ right.text ++ ")"
  | .not inner => "NOT " ++ inner.text

end Predicate

end RowQuery
