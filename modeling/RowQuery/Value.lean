import RowQuery.Decimal.Layout
import RowQuery.Literal

/-! # Values of columns

The values that flow through a query, their types, and the order in which each type is compared.
Text may be absent; absent text comes before every text.
-/

namespace RowQuery

/-- The declared types of values. -/
inductive ValueType where
  | integer
  | float
  | text
  | boolean
  deriving DecidableEq

/-- The name of a type of values. -/
def ValueType.name : ValueType → String
  | .integer => "INTEGER"
  | .float => "FLOAT"
  | .text => "TEXT"
  | .boolean => "BOOLEAN"

/-- A value of a column. -/
inductive Value where
  | integer (value : Int32)
  | float (value : Binary32)
  | boolean (value : Bool)
  | text (value : Option String)
  deriving DecidableEq

/-- The bytes of a text. -/
def utf8Bytes (text : String) : List UInt8 := text.toList.flatMap String.utf8EncodeChar

/-- The order of texts by their bytes, with absent text first. -/
def textOrder : Option String → Option String → Ordering
  | none, none => .eq
  | none, some _ => .lt
  | some _, none => .gt
  | some left, some right => compare (utf8Bytes left) (utf8Bytes right)

namespace Value

/-- The type of a value. -/
def type : Value → ValueType
  | .integer _ => .integer
  | .float _ => .float
  | .boolean _ => .boolean
  | .text _ => .text

/-- The order of two values of the same type. -/
def order? : Value → Value → Option Ordering
  | .integer left, .integer right => some (compare left.toInt right.toInt)
  | .float left, .float right => some (left.order right)
  | .boolean left, .boolean right => some (compare left right)
  | .text left, .text right => some (textOrder left right)
  | _, _ => none

/-- A value as query text. -/
def literalText : Value → String
  | .integer value => Text.intText value.toInt
  | .float value => value.render .literal
  | .boolean value => boolText value
  | .text (some value) => Text.quoteLiteral value
  | .text none => "null"

/-- A value as a cell of a result table. -/
def tableText : Value → String
  | .integer value => Text.intText value.toInt
  | .float value => value.render .table
  | .boolean value => boolText value
  | .text (some value) => value
  | .text none => "NULL"

/-- A value described by its type and content. -/
def describe : Value → String
  | .integer value => "Integer(" ++ Text.intText value.toInt ++ ")"
  | .float value => "Float(" ++ value.render .literal ++ ")"
  | .boolean value => "Boolean(" ++ boolText value ++ ")"
  | .text (some value) => "Text(NullableText(Some(" ++ Text.describe value ++ ")))"
  | .text none => "Text(NullableText(None))"

end Value

end RowQuery
