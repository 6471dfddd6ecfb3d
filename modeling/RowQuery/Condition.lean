import RowQuery.Literal

/-! # Conditions of a query

A condition is a tree of comparisons between a column and a literal. Its text puts parentheses
around every conjunction and disjunction, so the tree can be read back from it.
-/

namespace RowQuery

/-- The comparison operators. -/
inductive Operator where
  | equals
  | greaterThan
  | lessThan
  | greaterOrEqual
  | lessOrEqual
  | notEqual
  deriving DecidableEq

namespace Operator

/-- Every operator. -/
def all : List Operator :=
  [.equals, .greaterThan, .lessThan, .greaterOrEqual, .lessOrEqual, .notEqual]

/-- The symbol of an operator. -/
def symbol : Operator → String
  | .equals => "="
  | .greaterThan => ">"
  | .lessThan => "<"
  | .greaterOrEqual => ">="
  | .lessOrEqual => "<="
  | .notEqual => "!="

/-- The name of an operator in documents and descriptions. -/
def name : Operator → String
  | .equals => "Equals"
  | .greaterThan => "GreaterThan"
  | .lessThan => "LessThan"
  | .greaterOrEqual => "GreaterOrEqual"
  | .lessOrEqual => "LessOrEqual"
  | .notEqual => "NotEqual"

/-- The operator with a given symbol. -/
def ofSymbol? (text : String) : Option Operator := all.find? (·.symbol = text)

/-- The operator that a token stands for. -/
def ofToken? (token : Token) : Option Operator :=
  if token.kind = .symbol then ofSymbol? token.text else none

/-- Whether an operator accepts the order in which its two sides stand. -/
def holds : Operator → Ordering → Bool
  | .equals, order => order = .eq
  | .greaterThan, order => order = .gt
  | .lessThan, order => order = .lt
  | .greaterOrEqual, order => order ≠ .lt
  | .lessOrEqual, order => order ≠ .gt
  | .notEqual, order => order ≠ .eq

end Operator

/-- The tree of a condition. -/
inductive Condition where
  /-- A column compared with a literal. -/
  | comparison (column : String) (operator : Operator) (literal : Literal)
  /-- Both conditions hold. -/
  | and (left right : Condition)
  /-- One of the conditions holds. -/
  | or (left right : Condition)
  /-- The condition fails. -/
  | not (inner : Condition)
  deriving DecidableEq

namespace Condition

/-- The number of levels of a condition; a comparison has one. -/
def height : Condition → Nat
  | .comparison _ _ _ => 1
  | .and left right => max left.height right.height + 1
  | .or left right => max left.height right.height + 1
  | .not inner => inner.height + 1

/-- The literals of a condition from left to right. -/
def literals : Condition → List Literal
  | .comparison _ _ literal => [literal]
  | .and left right => left.literals ++ right.literals
  | .or left right => left.literals ++ right.literals
  | .not inner => inner.literals

/-- A comparison as query text. -/
def comparisonText (column : String) (operator : Operator) (literal : Literal) : String :=
  column ++ " " ++ operator.symbol ++ " " ++ literal.text

/-- A condition as query text. -/
def text : Condition → String
  | .comparison column operator literal => comparisonText column operator literal
  | .and left right => "(" ++ left.text ++ " AND " ++ right.text ++ ")"
  | .or left right => "(" ++ left.text ++ " OR " ++ right.text ++ ")"
  | .not inner => "NOT " ++ inner.text

/-- Whether two conditions are the same tree, floats being compared as numbers. -/
def same : Condition → Condition → Bool
  | .comparison column operator literal, .comparison column' operator' literal' =>
    column = column' && operator = operator' && literal.same literal'
  | .and left right, .and left' right' => left.same left' && right.same right'
  | .or left right, .or left' right' => left.same left' && right.same right'
  | .not inner, .not inner' => inner.same inner'
  | _, _ => false

end Condition

end RowQuery
