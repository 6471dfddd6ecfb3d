import RowQuery.ErrorKind
import RowQuery.Token

/-! # Failures of reading a query -/

namespace RowQuery

/-- The deepest condition that is read: it bounds the levels of negations and parentheses open at
once, and the height of the condition itself. -/
def maxNesting : Nat := 256

/-- What was missing where the text of a query ended. -/
inductive Missing where
  | selection
  | source
  | condition
  | operand
  deriving DecidableEq

/-- The text of what was missing. -/
def Missing.text : Missing → String
  | .selection => "selection list after SELECT"
  | .source => "source table after FROM"
  | .condition => "predicate after WHERE"
  | .operand => "predicate in WHERE clause"

/-- Why a text is not a query. -/
inductive ParseError where
  /-- A token stands where none of its kind may. -/
  | unexpectedToken (token : Token)
  /-- A keyword was expected, and something else or nothing was found. -/
  | expectedKeyword (keyword : Keyword) (found : Option Token)
  /-- The text ended too early. -/
  | endOfInput (missing : Missing)
  /-- The string that starts at a position is never closed. -/
  | unterminatedString (position : Nat)
  /-- The parenthesis opened at a position is not closed. -/
  | unclosedParenthesis (position : Nat)
  /-- Fewer tokens are left than a comparison needs. -/
  | malformedComparison (found : Option Token)
  /-- A token stands in the place of a comparison operator. -/
  | unknownOperator (token : Token)
  /-- A token is not a literal. -/
  | invalidLiteral (token : Token)
  /-- The source is not `$`. -/
  | invalidSource (token : Token)
  /-- A token may not stand in a selection list. -/
  | invalidSelection (token : Token)
  /-- The selection list is empty. -/
  | emptySelection
  /-- The condition is nested too deeply at a token. -/
  | nestingTooDeep (token : Token)
  deriving DecidableEq

namespace ParseError

/-- A token that may be missing, as messages name it. -/
def describeFound : Option Token → String
  | some token => token.describe
  | none => "end of input"

/-- The message of a failure. -/
def message : ParseError → String
  | .unexpectedToken token => "Unexpected token " ++ token.describe
  | .expectedKeyword keyword found =>
    "Expected keyword '" ++ keyword.text ++ "', found " ++ describeFound found
  | .endOfInput missing => "Unexpected end of input: expected " ++ missing.text
  | .unterminatedString position =>
    "Unterminated string literal starting at position " ++ Text.natText position
  | .unclosedParenthesis position =>
    "Unclosed parenthesis opened at position " ++ Text.natText position
  | .malformedComparison found => "Malformed comparison starting at " ++ describeFound found
  | .unknownOperator token => "Unsupported comparison operator " ++ token.describe
  | .invalidLiteral token => "Literal " ++ token.describe ++ " is not a supported type"
  | .invalidSource token =>
    "Queries must select FROM $ to reference the provided rows, found " ++ token.describe
  | .invalidSelection token => "Malformed selection list at " ++ token.describe
  | .emptySelection => "Expected at least one column in SELECT clause"
  | .nestingTooDeep token =>
    "Predicate nesting exceeds " ++ Text.natText maxNesting ++ " levels at " ++ token.describe

/-- The kind of a failure. -/
def kind : ParseError → ErrorKind
  | .invalidLiteral _ => .literalError
  | .invalidSource _ => .semanticError
  | .invalidSelection _ => .semanticError
  | .emptySelection => .arityError
  | _ => .syntaxError

end ParseError

end RowQuery
