import RowQuery.Buffer
import RowQuery.Conversion

/-! # Typed results

A result type is a row type, a field type, or a tuple of field types nested in sevens. The elements
of a result are values of a type computed from it, and they are taken out of a buffer by a
conversion.
-/

namespace RowQuery

/-- The values of a field type. -/
abbrev FieldType.Value : FieldType → Type
  | .integer => Int32
  | .float => Binary32
  | .boolean => Bool
  | .text => String
  | .nullableText => Option String

/-- A value of a field type as a value of a column. -/
def FieldType.toValue : (type : FieldType) → type.Value → RowQuery.Value
  | .integer, value => .integer value
  | .float, value => .float value
  | .boolean, value => .boolean value
  | .text, value => .text (some value)
  | .nullableText, value => .text value

/-- The values of some field types, one of each. -/
abbrev FieldValues : List FieldType → Type
  | [] => Unit
  | type :: types => type.Value × FieldValues types

/-- The values of a tuple of field types. -/
abbrev TupleValue : Tuple FieldType → Type
  | .last types => FieldValues types
  | .more types rest => FieldValues types × TupleValue rest

/-- What the elements of a result are. -/
inductive ResultType where
  /-- Whole rows. -/
  | row
  /-- Single fields. -/
  | field (type : FieldType)
  /-- Tuples of fields. -/
  | tuple (types : Tuple FieldType) (full : types.Full)
  deriving DecidableEq

/-- An element of a result, seen without its type. -/
inductive Entry (R : Type) where
  /-- A whole row. -/
  | row (row : R)
  /-- A single value. -/
  | value (value : Value)
  /-- A tuple of values. -/
  | tuple (values : Tuple Value)

/-- The values of some fields, in order. -/
def FieldValues.toList : (types : List FieldType) → FieldValues types → List Value
  | [], _ => []
  | type :: types, (value, values) => type.toValue value :: FieldValues.toList types values

/-- The values of a tuple of fields, with the same nesting. -/
def TupleValue.toTuple : (types : Tuple FieldType) → TupleValue types → Tuple Value
  | .last types, values => .last (FieldValues.toList types values)
  | .more types rest, (values, others) =>
    .more (FieldValues.toList types values) (TupleValue.toTuple rest others)

namespace ResultType

/-- The elements of a result over rows of type `R`. -/
abbrev Element (R : Type) : ResultType → Type
  | .row => R
  | .field type => type.Value
  | .tuple types _ => TupleValue types

/-- An element seen without its type. -/
def entry {R : Type} : (type : ResultType) → type.Element R → Entry R
  | .row, whole => .row whole
  | .field type, value => .value (type.toValue value)
  | .tuple types _, values => .tuple (TupleValue.toTuple types values)

/-- The shape that a result type asks for. -/
def shape (R : Type) [RowType R] : ResultType → Shape
  | .row => .row (RowType.name R)
  | .field type => .field type
  | .tuple types _ => Shape.ofTuple (types.map .field)

end ResultType

/-- The values of a column buffer as values of a field type. -/
def takeColumn : (type : FieldType) → ColumnBuffer → Conversion → Option (Array type.Value)
  | .integer, .integer values, .identity => some values
  | .float, .float values, .identity => some values
  | .boolean, .boolean values, .identity => some values
  | .text, .text values, .unwrapText => some (values.map (·.getD ""))
  | .nullableText, .text values, .identity => some values
  | _, _, _ => none

/-- How the fields of the row at an index are taken out of as many column buffers. A conversion is
needed for each of them, and further conversions are ignored. -/
def takeFields : (types : List FieldType) → List ColumnBuffer → List Conversion →
    Option (Nat → Option (FieldValues types))
  | [], [], _ => some fun _ => some ()
  | type :: types, buffer :: buffers, conversion :: conversions => do
    let column ← takeColumn type buffer conversion
    let others ← takeFields types buffers conversions
    return fun index => do
      let value ← column[index]?
      let values ← others index
      return (value, values)
  | _, _, _ => none

/-- The rows of a tuple of column buffers. A nested tuple needs seven buffers before it and eight
conversions, the last of them for the nested tuple; every column must be as long as the first. -/
def takeTuple : (types : Tuple FieldType) → Tuple ColumnBuffer → List Conversion →
    Option (Array (TupleValue types))
  | .last types, .last buffers, conversions => do
    let fields ← takeFields types buffers conversions
    (Array.range (Tuple.last buffers).rowCount).mapM fields
  | .more types rest, .more buffers bufferRest, conversions =>
    if buffers.length = maxFields ∧ conversions.length = maxFields + 1 then
      match conversions[maxFields]? with
      | some (.tuple inner) => do
        let fields ← takeFields types buffers conversions
        let nested ← takeTuple rest bufferRest inner
        (Array.range (Tuple.more buffers bufferRest).rowCount).mapM fun index => do
          let values ← fields index
          let others ← nested[index]?
          return (values, others)
      | _ => none
    else none
  | _, _, _ => none

/-- The elements of a result, taken out of a buffer by a conversion that fits it. -/
def ResultType.materialize {R : Type} : (type : ResultType) → Buffer R → Conversion →
    Option (Array (type.Element R))
  | .row, .rows rows, .identity => some rows
  | .field type, .column values, conversion => takeColumn type values conversion
  | .tuple types _, .tuple fields, .tuple conversions => takeTuple types fields conversions
  | _, _, _ => none

end RowQuery
