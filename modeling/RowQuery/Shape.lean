import RowQuery.Column
import RowQuery.Json
import RowQuery.Tuple

/-! # Shapes of results

The shape of a result says what each of its elements is: a whole row, a single field, or a tuple of
shapes.
-/

namespace RowQuery

namespace FieldType

/-- The name of a field type in shapes. -/
def name : FieldType → String
  | .integer => "i32"
  | .float => "f32"
  | .boolean => "bool"
  | .text => "String"
  | .nullableText => "Option<String>"

/-- The name of a field type in descriptions. -/
def describe : FieldType → String
  | .integer => "Integer"
  | .float => "Float"
  | .boolean => "Boolean"
  | .text => "Text"
  | .nullableText => "NullableText"

end FieldType

/-- What an element of a result is. -/
inductive Shape where
  /-- A whole row of the named type. -/
  | row (name : String)
  /-- A single field. -/
  | field (type : FieldType)
  /-- A tuple. -/
  | tuple (fields : List Shape)

namespace Shape

mutual

/-- Whether two shapes are equal can be decided. -/
def decideEq : (left right : Shape) → Decidable (left = right)
  | .row left, .row right =>
    if same : left = right then isTrue (by rw [same]) else isFalse (by simpa using same)
  | .field left, .field right =>
    if same : left = right then isTrue (by rw [same]) else isFalse (by simpa using same)
  | .tuple left, .tuple right =>
    match decideEqAll left right with
    | isTrue same => isTrue (by rw [same])
    | isFalse differs => isFalse (by simpa using differs)
  | .row _, .field _ => isFalse (by simp)
  | .row _, .tuple _ => isFalse (by simp)
  | .field _, .row _ => isFalse (by simp)
  | .field _, .tuple _ => isFalse (by simp)
  | .tuple _, .row _ => isFalse (by simp)
  | .tuple _, .field _ => isFalse (by simp)

/-- Whether two lists of shapes are equal can be decided. -/
def decideEqAll : (left right : List Shape) → Decidable (left = right)
  | [], [] => isTrue rfl
  | [], _ :: _ => isFalse (by simp)
  | _ :: _, [] => isFalse (by simp)
  | left :: lefts, right :: rights =>
    match decideEq left right, decideEqAll lefts rights with
    | isTrue head, isTrue tail => isTrue (by rw [head, tail])
    | isFalse differs, _ => isFalse fun same => differs (List.cons.inj same).1
    | _, isFalse differs => isFalse fun same => differs (List.cons.inj same).2

end

instance : DecidableEq Shape := decideEq

/-- The shape of a nested tuple of shapes: a further tuple is one more field. -/
def ofTuple : Tuple Shape → Shape
  | .last fields => .tuple fields
  | .more fields rest => .tuple (fields ++ [ofTuple rest])

mutual

/-- The text of a shape; a tuple of one field ends in a comma. -/
def text : Shape → String
  | .row name => name
  | .field type => type.name
  | .tuple fields =>
    "(" ++ ", ".intercalate (texts fields) ++ (if fields.length = 1 then "," else "") ++ ")"

/-- The texts of some shapes. -/
def texts : List Shape → List String
  | [] => []
  | shape :: rest => shape.text :: texts rest

end

mutual

/-- The description of a shape. -/
def describe : Shape → String
  | .row name => "Row(" ++ Text.describe name ++ ")"
  | .field type => type.describe
  | .tuple fields => "Tuple(" ++ Text.describeList (describeAll fields) ++ ")"

/-- The descriptions of some shapes. -/
def describeAll : List Shape → List String
  | [] => []
  | shape :: rest => shape.describe :: describeAll rest

end

mutual

/-- A shape as a JSON document. -/
def toJson : Shape → Json
  | .row name => .object [("Row", .string name)]
  | .field type => .string type.describe
  | .tuple fields => .object [("Tuple", .array (toJsonAll fields))]

/-- Some shapes as JSON documents. -/
def toJsonAll : List Shape → List Json
  | [] => []
  | shape :: rest => shape.toJson :: toJsonAll rest

end

end Shape

end RowQuery
