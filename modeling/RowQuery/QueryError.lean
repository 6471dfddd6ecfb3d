import RowQuery.Catalog
import RowQuery.Query.ParseError
import RowQuery.Condition
import RowQuery.Shape

/-! # Failures of queries -/

namespace RowQuery

/-- Why a query cannot be compiled, or its result not be given as requested. -/
inductive QueryError where
  /-- The text is not a query. -/
  | parse (cause : ParseError)
  /-- A name does not resolve. -/
  | catalog (cause : CatalogError)
  /-- A literal does not fit the column that it is compared with. -/
  | typeMismatch (type : ValueType) (column : String) (literal : Literal)
  /-- An operator cannot compare a column with its constant. -/
  | unsupportedOperator (operator : Operator) (type : ValueType) (column : String)
  /-- The requested shape is not the one that the query produces. -/
  | shapeMismatch (produced requested : Shape)
  /-- A selection names no columns. -/
  | emptySelection
  /-- A tuple would have no fields. -/
  | emptyTuple
  deriving DecidableEq

namespace QueryError

/-- The message of a failure. -/
def message : QueryError → String
  | .parse cause => cause.message
  | .catalog cause => cause.message
  | .typeMismatch type column literal =>
    "Type mismatch: cannot compare " ++ type.name ++ " column '" ++ column ++ "' with " ++
      literal.kind ++ " literal " ++ literal.text
  | .unsupportedOperator operator type column =>
    "Type mismatch: operator " ++ operator.symbol ++ " is not supported for " ++ type.name ++
      " column '" ++ column ++ "'"
  | .shapeMismatch produced requested =>
    "Query produces " ++ produced.text ++ " but " ++ requested.text ++ " was requested"
  | .emptySelection => "Arity error: selection list is empty"
  | .emptyTuple => "Arity error: a tuple projection needs at least one column"

/-- The kind of a failure. -/
def kind : QueryError → ErrorKind
  | .parse cause => cause.kind
  | .catalog cause => cause.kind
  | .typeMismatch _ _ _ => .typeMismatch
  | .unsupportedOperator _ _ _ => .typeMismatch
  | .shapeMismatch _ _ => .shapeMismatch
  | .emptySelection => .arityError
  | .emptyTuple => .arityError

end QueryError

end RowQuery
