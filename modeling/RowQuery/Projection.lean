import RowQuery.QueryError
import RowQuery.Tuple

/-! # Projections

A projection takes some columns out of each row: a single one, or a tuple of them.
-/

namespace RowQuery

variable {R : Type}

/-- The columns that are taken out of each row. -/
inductive Projection (R : Type) where
  /-- A single column. -/
  | column (column : Column R)
  /-- A tuple of columns. -/
  | tuple (columns : Tuple (Column R))

namespace Projection

/-- The tuple of some columns, of which there must be one at least. The columns after the seventh
are made into a tuple in the same way, with the same check. -/
def nest (columns : List (Column R)) : Except QueryError (Tuple (Column R)) :=
  if columns.isEmpty then .error .emptyTuple
  else if maxFields < columns.length then do
    let rest ← nest (columns.drop maxFields)
    return .more (columns.take maxFields) rest
  else return .last columns
termination_by columns.length
decreasing_by simp only [maxFields, List.length_drop] at *; omega

/-- The projection of some columns as a tuple. -/
def ofTuple (columns : List (Column R)) : Except QueryError (Projection R) :=
  return .tuple (← nest columns)

/-- One column by itself, or a tuple of several. -/
def ofColumns (columns : List (Column R)) : Except QueryError (Projection R) :=
  match columns with
  | [] => .error .emptySelection
  | [single] => .ok (.column single)
  | columns => ofTuple columns

/-- The columns in order. -/
def columns : Projection R → List (Column R)
  | .column single => [single]
  | .tuple columns => columns.toList

/-- The shape of the projected values, given the field type to use for each column. -/
def shapeBy (fieldType : Column R → FieldType) : Projection R → Shape
  | .column single => .field (fieldType single)
  | .tuple columns => Shape.ofTuple (columns.map fun field => .field (fieldType field))

/-- The shape of the values while a query runs, when all text may be absent. -/
def runtimeShape (projection : Projection R) : Shape :=
  projection.shapeBy fun field => field.fieldType.runtime

/-- The shape of the values as a result. -/
def publicShape (projection : Projection R) : Shape := projection.shapeBy Column.fieldType

/-- The columns of a tuple, with nested ones in parentheses. -/
def tupleText : Tuple (Column R) → String
  | .last columns => ", ".intercalate (columns.map (·.describe))
  | .more columns rest =>
    ", ".intercalate (columns.map (·.describe)) ++ ", (" ++ tupleText rest ++ ")"

/-- A projection as plans show it. -/
def text : Projection R → String
  | .column single => single.describe
  | .tuple columns => "(" ++ tupleText columns ++ ")"

end Projection

end RowQuery
