import RowQuery.Column

/-! # Records

Rows whose fields are known only when they are read: a list of cells, each of its own kind.
-/

namespace RowQuery

/-- A cell of a record. -/
inductive Cell where
  | integer (value : Int32)
  | float (value : Binary32)
  | boolean (value : Bool)
  | text (value : String)
  | null
  deriving DecidableEq

/-- A row of cells, with its place among the rows that it was read with. -/
structure Record where
  /-- The place among the rows. -/
  index : Nat
  /-- The cells. -/
  cells : List Cell
  deriving DecidableEq

/-- The description of a cell. -/
def Cell.describe : Cell → String
  | .integer value => "Integer(" ++ Text.intText value.toInt ++ ")"
  | .float value => "Float(" ++ value.render .literal ++ ")"
  | .boolean value => "Boolean(" ++ boolText value ++ ")"
  | .text value => "Text(" ++ Text.describe value ++ ")"
  | .null => "Null"

namespace Record

/-- The cell at a place, null if there is none. -/
def cell (record : Record) (place : Nat) : Cell := record.cells[place]?.getD .null

/-- How a field of some type is read out of the cell at a place. A cell of another kind reads as
zero, as false, as the empty text, or as absent text. -/
def accessor (type : FieldType) (place : Nat) : Accessor Record :=
  match type with
  | .integer => .integer fun record => match record.cell place with
    | .integer value => value
    | _ => 0
  | .float => .float fun record => match record.cell place with
    | .float value => value
    | _ => Binary32.ofInt 0
  | .boolean => .boolean fun record => match record.cell place with
    | .boolean value => value
    | _ => false
  | .text => .text fun record => match record.cell place with
    | .text value => value
    | _ => ""
  | .nullableText => .nullableText fun record => match record.cell place with
    | .text value => some value
    | _ => none

/-- The column that reads the cell at a place. -/
def column (name : String) (type : FieldType) (place : Nat) : Column Record :=
  ⟨name, place, accessor type place⟩

end Record

end RowQuery
