import RowQuery.Value

/-! # Columns of rows

A column has a name and reads one value out of a row. Its field type tells text that may be absent
from text that never is; as a value, both are text.
-/

namespace RowQuery

/-- A type of rows that queries run over. -/
class RowType (R : Type) where
  /-- The name of the type. -/
  name : String
  /-- The description of a row. -/
  describe : R → String

/-- The types of single fields, of rows as well as of results. -/
inductive FieldType where
  | integer
  | float
  | boolean
  /-- Text that is never absent. -/
  | text
  /-- Text that may be absent. -/
  | nullableText
  deriving DecidableEq

namespace FieldType

/-- The type of the values that a field of this type holds as a column. -/
def valueType : FieldType → ValueType
  | .integer => .integer
  | .float => .float
  | .boolean => .boolean
  | .text => .text
  | .nullableText => .text

/-- The type of fields that values are passed on as while a query runs: text may then be absent. -/
def runtime : FieldType → FieldType
  | .text => .nullableText
  | type => type

end FieldType

/-- How a field of some type is read out of a row. -/
inductive Accessor (R : Type) where
  | integer (get : R → Int32)
  | float (get : R → Binary32)
  | boolean (get : R → Bool)
  | text (get : R → String)
  | nullableText (get : R → Option String)

namespace Accessor

variable {R : Type}

/-- The type of the field that is read. -/
def fieldType : Accessor R → FieldType
  | .integer _ => .integer
  | .float _ => .float
  | .boolean _ => .boolean
  | .text _ => .text
  | .nullableText _ => .nullableText

/-- The value of the field in a row. -/
def value : Accessor R → R → Value
  | .integer get, row => .integer (get row)
  | .float get, row => .float (get row)
  | .boolean get, row => .boolean (get row)
  | .text get, row => .text (some (get row))
  | .nullableText get, row => .text (get row)

/-- The text of a field that holds text. -/
def text? (accessor : Accessor R) (row : R) : Option (Option String) :=
  match accessor with
  | .text get => some (some (get row))
  | .nullableText get => some (get row)
  | _ => none

end Accessor

/-- A column: its name, the place of its field in a row, and how the field is read. -/
structure Column (R : Type) where
  /-- The name as registered. -/
  name : String
  /-- The place of the field in a row. -/
  place : Nat
  /-- How the field is read. -/
  accessor : Accessor R

namespace Column

variable {R : Type}

/-- The name by which a column is looked up, the same for every case of its letters. -/
def key (column : Column R) : String := Text.lower column.name

/-- The type of the column's field. -/
def fieldType (column : Column R) : FieldType := column.accessor.fieldType

/-- The type of the column's values. -/
def type (column : Column R) : ValueType := column.fieldType.valueType

/-- The column's value in a row. -/
def value (column : Column R) (row : R) : Value := column.accessor.value row

/-- A column as messages describe it. -/
def describe (column : Column R) : String := column.name ++ ": " ++ column.type.name

end Column

end RowQuery
