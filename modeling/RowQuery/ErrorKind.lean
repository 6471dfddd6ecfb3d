/-! # Kinds of failure -/

namespace RowQuery

/-- The broad kinds of failure of a query. -/
inductive ErrorKind where
  /-- The tokens do not form a query. -/
  | syntaxError
  /-- The source or the selection list is wrong. -/
  | semanticError
  /-- A literal is not a supported value. -/
  | literalError
  /-- The rows have no registered schema. -/
  | schemaError
  /-- A column name does not resolve. -/
  | unknownColumn
  /-- A literal does not fit its column. -/
  | typeMismatch
  /-- The requested result does not fit the query. -/
  | shapeMismatch
  /-- A selection has no columns. -/
  | arityError
  deriving DecidableEq

/-- The name of a kind of failure. -/
def ErrorKind.name : ErrorKind → String
  | .syntaxError => "SyntaxError"
  | .semanticError => "SemanticError"
  | .literalError => "LiteralError"
  | .schemaError => "SchemaError"
  | .unknownColumn => "UnknownColumnError"
  | .typeMismatch => "TypeMismatchError"
  | .shapeMismatch => "ShapeMismatchError"
  | .arityError => "ArityError"

end RowQuery
