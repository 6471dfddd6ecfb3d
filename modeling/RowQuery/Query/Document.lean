import RowQuery.Json
import RowQuery.Query

/-! # Queries as documents and descriptions -/

namespace RowQuery

namespace Literal

/-- A literal as a JSON document. -/
def toJson : Literal → Json
  | .integer value => .object [("Integer", .number (Text.intText value.toInt))]
  | .float value => .object [("Float", .number (value.render .json))]
  | .string value => .object [("String", .string value)]
  | .null => .object [("String", .null)]
  | .boolean value => .object [("Boolean", .boolean value)]

/-- The description of a literal. -/
def describe : Literal → String
  | .integer value => "Integer(" ++ Text.intText value.toInt ++ ")"
  | .float value => "Float(" ++ value.render .literal ++ ")"
  | .string value => "String(Some(" ++ Text.describe value ++ "))"
  | .null => "String(None)"
  | .boolean value => "Boolean(" ++ boolText value ++ ")"

end Literal

namespace Condition

/-- A condition as a JSON document. -/
def toJson : Condition → Json
  | .comparison column operator literal =>
    .object [("Comparison", .object
      [("column", .string column), ("operator", .string operator.name),
       ("literal", literal.toJson)])]
  | .and left right => .object [("And", .array [left.toJson, right.toJson])]
  | .or left right => .object [("Or", .array [left.toJson, right.toJson])]
  | .not inner => .object [("Not", inner.toJson)]

/-- The description of a condition. -/
def describe : Condition → String
  | .comparison column operator literal =>
    "Comparison \x7b column: " ++ Text.describe column ++ ", operator: " ++ operator.name ++
      ", literal: " ++ literal.describe ++ " \x7d"
  | .and left right => "And(" ++ left.describe ++ ", " ++ right.describe ++ ")"
  | .or left right => "Or(" ++ left.describe ++ ", " ++ right.describe ++ ")"
  | .not inner => "Not(" ++ inner.describe ++ ")"

end Condition

namespace Query

/-- A query as a JSON document. -/
def toJson (query : Query) : Json :=
  .object
    [("selection", .object
      [("select_all", .boolean query.selection.isAll),
       ("column_identifiers", .array (query.selection.names.map .string))]),
     ("where_clause", match query.condition with
      | some condition => condition.toJson
      | none => .null)]

/-- The description of a query. -/
def describe (query : Query) : String :=
  "ParsedQuery \x7b selection: SelectionClause \x7b select_all: " ++
    boolText query.selection.isAll ++ ", column_identifiers: " ++
    Text.describeList (query.selection.names.map Text.describe) ++ " \x7d, where_clause: " ++
    (match query.condition with
      | some condition => "Some(" ++ condition.describe ++ ")"
      | none => "None") ++ " \x7d"

end Query

end RowQuery
