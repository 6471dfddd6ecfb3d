import RowQuery.Projection
import RowQuery.Trace

/-! # Result buffers

A query writes its result column by column. A buffer is made for a projection, and every write must
come through a projection of the same form.
-/

namespace RowQuery

variable {R : Type}

/-- A write that does not fit its buffer. -/
inductive Fault where
  /-- A column is written to a buffer of another type. -/
  | column
  /-- A tuple is written to a buffer with another nesting. -/
  | tuple
  /-- A projection is written to a buffer of another form. -/
  | result
  deriving DecidableEq

/-- The message of a fault. -/
def Fault.message : Fault → String
  | .column => "column buffer does not match its projection"
  | .tuple => "tuple buffer does not match its projection"
  | .result => "result buffer does not match the terminal projection"

/-- A computation that reads columns and may stop at a fault. -/
abbrev Execution (R : Type) := ExceptT Fault (Traced R)

/-- The values of one column. -/
inductive ColumnBuffer where
  | integer (values : Array Int32)
  | float (values : Array Binary32)
  | boolean (values : Array Bool)
  | text (values : Array (Option String))
  deriving DecidableEq

namespace ColumnBuffer

/-- The buffer without values for a type. -/
def empty : ValueType → ColumnBuffer
  | .integer => .integer #[]
  | .float => .float #[]
  | .boolean => .boolean #[]
  | .text => .text #[]

/-- The type of the values. -/
def type : ColumnBuffer → ValueType
  | .integer _ => .integer
  | .float _ => .float
  | .boolean _ => .boolean
  | .text _ => .text

/-- The number of values. -/
def size : ColumnBuffer → Nat
  | .integer values => values.size
  | .float values => values.size
  | .boolean values => values.size
  | .text values => values.size

/-- The value at an index. -/
def get? : ColumnBuffer → Nat → Option Value
  | .integer values, index => values[index]?.map .integer
  | .float values, index => values[index]?.map .float
  | .boolean values, index => values[index]?.map .boolean
  | .text values, index => values[index]?.map .text

/-- The type of fields that the values are. -/
def fieldType : ColumnBuffer → FieldType
  | .integer _ => .integer
  | .float _ => .float
  | .boolean _ => .boolean
  | .text _ => .nullableText

/-- The buffer with a value of its type added at the end. -/
def push? : ColumnBuffer → Value → Option ColumnBuffer
  | .integer values, .integer value => some (.integer (values.push value))
  | .float values, .float value => some (.float (values.push value))
  | .boolean values, .boolean value => some (.boolean (values.push value))
  | .text values, .text value => some (.text (values.push value))
  | _, _ => none

/-- Adds the value of a column in a row. -/
def write (buffer : ColumnBuffer) (column : Column R) (row : R) : Execution R ColumnBuffer := do
  let value ← column.read row
  match buffer.push? value with
  | some written => pure written
  | none => throw .column

/-- Adds the values of a column in some rows; the types must agree even if there are no rows. -/
def writeAll (buffer : ColumnBuffer) (column : Column R) (rows : List R) :
    Execution R ColumnBuffer :=
  if buffer.type = column.type then rows.foldlM (fun written row => written.write column row) buffer
  else throw .column

end ColumnBuffer

/-- Writes each column to the buffer at its place; buffers without a column stay as they are. -/
def writeFields (write : ColumnBuffer → Column R → Execution R ColumnBuffer) :
    List ColumnBuffer → List (Column R) → Execution R (List ColumnBuffer)
  | buffer :: buffers, column :: columns => do
    let written ← write buffer column
    let others ← writeFields write buffers columns
    return written :: others
  | buffers, _ => pure buffers

/-- Writes each column of a tuple to the buffer at its place, the nested ones last. -/
def writeTuple (write : ColumnBuffer → Column R → Execution R ColumnBuffer) :
    Tuple ColumnBuffer → Tuple (Column R) → Execution R (Tuple ColumnBuffer)
  | .last buffers, .last columns => do
    let written ← writeFields write buffers columns
    return .last written
  | .more buffers bufferRest, .more columns columnRest => do
    let written ← writeFields write buffers columns
    let others ← writeTuple write bufferRest columnRest
    return .more written others
  | .last buffers, .more columns _ => do
    let _ ← writeFields write buffers columns
    throw .tuple
  | .more buffers _, .last columns => do
    let _ ← writeFields write buffers columns
    throw .tuple

/-- The number of rows in a tuple of buffers, which is the length of its first column. -/
def Tuple.rowCount (buffers : Tuple ColumnBuffer) : Nat :=
  match buffers.fields with
  | [] => 0
  | first :: _ => first.size

/-- The result of a query as it is written. -/
inductive Buffer (R : Type) where
  /-- Whole rows. -/
  | rows (rows : Array R)
  /-- The values of a single column. -/
  | column (values : ColumnBuffer)
  /-- The values of a tuple of columns. -/
  | tuple (fields : Tuple ColumnBuffer)

namespace Buffer

/-- The empty buffer for a projection, or for whole rows. -/
def forProjection : Option (Projection R) → Buffer R
  | none => .rows #[]
  | some (.column single) => .column (ColumnBuffer.empty single.type)
  | some (.tuple columns) => .tuple (columns.map fun field => ColumnBuffer.empty field.type)

/-- The number of rows. -/
def size : Buffer R → Nat
  | .rows kept => kept.size
  | .column values => values.size
  | .tuple fields => fields.rowCount

/-- The shape of the elements. -/
def shape [RowType R] : Buffer R → Shape
  | .rows _ => .row (RowType.name R)
  | .column values => .field values.fieldType
  | .tuple fields => Shape.ofTuple (fields.map fun values => .field values.fieldType)

/-- Adds a row, through a projection or whole. -/
def emit (buffer : Buffer R) (projection : Option (Projection R)) (row : R) :
    Execution R (Buffer R) :=
  match buffer, projection with
  | .rows kept, none => pure (.rows (kept.push row))
  | .column values, some (.column single) => do
    let written ← values.write single row
    return .column written
  | .tuple fields, some (.tuple columns) => do
    let written ← writeTuple (fun values field => values.write field row) fields columns
    return .tuple written
  | _, _ => throw .result

/-- Adds some rows at once, column after column. -/
def emitAll (buffer : Buffer R) (projection : Option (Projection R)) (rows : List R) :
    Execution R (Buffer R) :=
  match buffer, projection with
  | .rows kept, none => pure (.rows (kept ++ rows.toArray))
  | .column values, some (.column single) => do
    let written ← values.writeAll single rows
    return .column written
  | .tuple fields, some (.tuple columns) => do
    let written ← writeTuple (fun values field => values.writeAll field rows) fields columns
    return .tuple written
  | _, _ => throw .result

/-- The text of the row at an index; columns too short to have a value there are passed over. -/
def rowText? [RowType R] (buffer : Buffer R) (index : Nat) : Option String :=
  match buffer with
  | .rows kept => kept[index]?.map RowType.describe
  | .column values => (values.get? index).map (·.tableText)
  | .tuple fields =>
    if index < fields.rowCount then
      let values := fields.toList.filterMap (·.get? index)
      some ("(" ++ ", ".intercalate (values.map (·.tableText)) ++ ")")
    else none

end Buffer

end RowQuery
