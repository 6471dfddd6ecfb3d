import RowQuery.Condition

/-! # Queries

A query selects whole rows or some of their columns, from the rows that meet a condition.
-/

namespace RowQuery

/-- What a query selects from each row. -/
inductive Selection where
  /-- The whole row. -/
  | all
  /-- The named columns, in order. -/
  | columns (names : List String)
  deriving DecidableEq

/-- A query: what it selects and the condition that its rows meet. -/
structure Query where
  /-- What is selected. -/
  selection : Selection
  /-- The condition on the rows, if there is one. -/
  condition : Option Condition
  deriving DecidableEq

namespace Selection

/-- Whether the whole row is selected. -/
def isAll : Selection → Bool
  | .all => true
  | .columns _ => false

/-- The names of the selected columns; none for the whole row. -/
def names : Selection → List String
  | .all => []
  | .columns names => names

end Selection

end RowQuery
