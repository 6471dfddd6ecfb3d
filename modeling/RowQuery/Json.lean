import RowQuery.Text.Indent
import RowQuery.Text.Quoted

/-! # JSON documents -/

namespace RowQuery

/-- A JSON document; numbers are kept as text and the members of an object in order. -/
inductive Json where
  | null
  | boolean (value : Bool)
  | number (text : String)
  | string (value : String)
  | array (items : List Json)
  | object (members : List (String × Json))

namespace Json

mutual

/-- A document on one line without blanks. -/
def compact : Json → String
  | .null => "null"
  | .boolean value => if value then "true" else "false"
  | .number text => text
  | .string value => Text.jsonString value
  | .array items => "[" ++ ",".intercalate (compactItems items) ++ "]"
  | .object members => "\x7b" ++ ",".intercalate (compactMembers members) ++ "\x7d"

/-- The documents of a list, each on one line. -/
def compactItems : List Json → List String
  | [] => []
  | item :: rest => item.compact :: compactItems rest

/-- The members of an object, each on one line. -/
def compactMembers : List (String × Json) → List String
  | [] => []
  | (name, value) :: rest => (Text.jsonString name ++ ":" ++ value.compact) :: compactMembers rest

end

/-- Items between brackets, each on its own line one level deeper; nothing between the brackets of
an empty list. -/
def block (left right : String) (depth : Nat) (items : List String) : String :=
  if items.isEmpty then left ++ right
  else
    left ++ "\n" ++ ",\n".intercalate (items.map (Text.indent (depth + 1) ++ ·)) ++ "\n" ++
      Text.indent depth ++ right

mutual

/-- A document with every item and member on a line of its own. -/
def pretty (depth : Nat) : Json → String
  | .array items => block "[" "]" depth (prettyItems (depth + 1) items)
  | .object members => block "\x7b" "\x7d" depth (prettyMembers (depth + 1) members)
  | .null => "null"
  | .boolean value => if value then "true" else "false"
  | .number text => text
  | .string value => Text.jsonString value

/-- The documents of a list at a depth. -/
def prettyItems (depth : Nat) : List Json → List String
  | [] => []
  | item :: rest => item.pretty depth :: prettyItems depth rest

/-- The members of an object at a depth. -/
def prettyMembers (depth : Nat) : List (String × Json) → List String
  | [] => []
  | (name, value) :: rest =>
    (Text.jsonString name ++ ": " ++ value.pretty depth) :: prettyMembers depth rest

end

end Json

end RowQuery
