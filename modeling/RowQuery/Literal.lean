import RowQuery.Decimal.Layout
import RowQuery.Decimal.Numeral
import RowQuery.Text.Quoted
import RowQuery.Token

/-! # Literals of a query -/

namespace RowQuery

/-- A value written in a query. -/
inductive Literal where
  | integer (value : Int32)
  | float (value : Binary32)
  | string (value : String)
  | null
  | boolean (value : Bool)
  deriving DecidableEq

/-- The spelling of a truth value. -/
def boolText (value : Bool) : String := if value then "true" else "false"

namespace Literal

/-- The kind of a literal, as messages name it. -/
def kind : Literal → String
  | .integer _ => "integer"
  | .float _ => "float"
  | .string _ => "string"
  | .null => "null"
  | .boolean _ => "boolean"

/-- A literal as query text. -/
def text : Literal → String
  | .integer value => Text.intText value.toInt
  | .float value => value.render .literal
  | .string value => Text.quoteLiteral value
  | .null => "null"
  | .boolean value => boolText value

/-- The literal that a bare word spells: a truth value, the absent value, a whole number in range,
or any other number. -/
def ofWord? (word : String) : Option Literal :=
  if Text.sameIgnoringCase word "true" then some (.boolean true)
  else if Text.sameIgnoringCase word "false" then some (.boolean false)
  else if Text.sameIgnoringCase word "null" then some .null
  else match readInt32? word.toList with
    | some value => some (.integer value)
    | none => (Binary32.read? word.toList).map .float

/-- The literal that a token stands for. -/
def ofToken? (token : Token) : Option Literal :=
  match token.kind with
  | .string value => some (.string value)
  | .word => ofWord? token.text
  | _ => none

/-- Whether two literals are the same value, floats being compared as numbers. -/
def same : Literal → Literal → Bool
  | .float left, .float right => left.sameNumber right
  | left, right => left = right

end Literal

end RowQuery
