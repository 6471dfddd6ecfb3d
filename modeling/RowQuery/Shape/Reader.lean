import RowQuery.Result

/-! # Reading shapes

A shape without rows can be read back from its text, and a shape that some result type asks for
determines that type.
-/

namespace RowQuery

/-- Every field type. -/
def FieldType.all : List FieldType := [.integer, .float, .boolean, .text, .nullableText]

namespace Shape

/-- What follows an expected start. -/
def after? : (start input : List Char) → Option (List Char)
  | [], input => some input
  | _ :: _, [] => none
  | expected :: more, c :: rest => if expected = c then after? more rest else none

/-- A field type and what follows its name. -/
def readField? (input : List Char) : Option (Shape × List Char) :=
  FieldType.all.findSome? fun type => (after? type.name.toList input).map (.field type, ·)

mutual

/-- A shape and what follows it; `fuel` bounds the number of characters. -/
def readOne? : (fuel : Nat) → List Char → Option (Shape × List Char)
  | 0, _ => none
  | _ + 1, '(' :: ')' :: rest => some (.tuple [], rest)
  | fuel + 1, '(' :: rest =>
    (readFields? fuel rest).map fun (fields, after) => (.tuple fields, after)
  | _ + 1, input => readField? input

/-- The fields of a tuple up to its closing parenthesis, and what follows that. -/
def readFields? : (fuel : Nat) → List Char → Option (List Shape × List Char)
  | 0, _ => none
  | fuel + 1, input =>
    match readOne? fuel input with
    | some (first, ')' :: rest) => some ([first], rest)
    | some (first, ',' :: ')' :: rest) => some ([first], rest)
    | some (first, ',' :: ' ' :: rest) =>
      (readFields? fuel rest).map fun (others, after) => (first :: others, after)
    | _ => none

end

/-- The shape that a text spells. -/
def read? (text : String) : Option Shape :=
  match readOne? (text.length + 1) text.toList with
  | some (shape, []) => some shape
  | _ => none

mutual

/-- The nested tuple of field types that a shape is. -/
def fieldTypes? : Shape → Option (Tuple FieldType)
  | .tuple fields => fieldTypesOf? fields
  | _ => none

/-- The nested tuple of field types that the fields of a shape are: a tuple among them is nested,
and stands last. -/
def fieldTypesOf? : List Shape → Option (Tuple FieldType)
  | [] => some (.last [])
  | .field type :: rest =>
    match fieldTypesOf? rest with
    | some (.last types) => some (.last (type :: types))
    | some (.more types nested) => some (.more (type :: types) nested)
    | none => none
  | [.tuple fields] => (fieldTypesOf? fields).map (.more [])
  | _ => none

end

end Shape

/-- The result type that asks for a shape without rows. -/
def ResultType.ofShape? : Shape → Option ResultType
  | .row _ => none
  | .field type => some (.field type)
  | .tuple fields =>
    match (Shape.tuple fields).fieldTypes? with
    | some types => if full : types.Full then some (.tuple types full) else none
    | none => none

end RowQuery
