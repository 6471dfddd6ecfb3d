import RowQuery.Text.Case
import RowQuery.Text.Digits

/-! # Tokens of a query text -/

namespace RowQuery

/-- The words with a meaning of their own in a query. -/
inductive Keyword where
  | select
  | from
  | where
  | and
  | or
  | not
  deriving DecidableEq

/-- The spelling of a keyword in messages. -/
def Keyword.text : Keyword → String
  | .select => "SELECT"
  | .from => "FROM"
  | .where => "WHERE"
  | .and => "AND"
  | .or => "OR"
  | .not => "NOT"

/-- The classes of tokens. -/
inductive TokenKind where
  /-- A name, a keyword, a number, `*` or `$`. -/
  | word
  /-- A quoted string, with the text it stands for. -/
  | string (value : String)
  /-- A comparison symbol, or a lone `!`. -/
  | symbol
  /-- An opening parenthesis. -/
  | leftParen
  /-- A closing parenthesis. -/
  | rightParen
  deriving DecidableEq

/-- A token: its class, its source text and the byte offset at which it starts. -/
structure Token where
  /-- The class of the token. -/
  kind : TokenKind
  /-- The source text, with the quotes of a string. -/
  text : String
  /-- The byte offset in the query text. -/
  position : Nat
  deriving DecidableEq

namespace Token

/-- Whether a token is a bare word with the given text. -/
def isWord (token : Token) (text : String) : Bool := token.kind = .word && token.text = text

/-- Whether a token is a keyword, in any case of its letters. -/
def isKeyword (token : Token) (keyword : Keyword) : Bool :=
  token.kind = .word && Text.sameIgnoringCase token.text keyword.text

/-- A token as messages name it. -/
def describe (token : Token) : String :=
  "'" ++ token.text ++ "' at position " ++ Text.natText token.position

end Token

end RowQuery
