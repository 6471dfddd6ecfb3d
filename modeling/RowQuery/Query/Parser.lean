import RowQuery.Query
import RowQuery.Query.ParseError
import RowQuery.Token.Lexer

/-! # Reading queries

A parser moves a cursor over a list of tokens. The cursor stays where a failure left it, so that a
parser can be asked again. Disjunctions bind weaker than conjunctions, conjunctions weaker than
negations, and both join their operands from the left.
-/

namespace RowQuery

/-- A place in a list of tokens, by what is left of the list. -/
structure Cursor where
  /-- The tokens not yet consumed. -/
  rest : List Token
  /-- The number of negations and parentheses open around the place. -/
  openLevels : Nat := 0
  deriving DecidableEq

/-- A step that reads a value and moves the cursor, also when it fails. -/
abbrev Parser := EStateM ParseError Cursor

namespace Parser

/-- The next token, left in place. -/
def peek : Parser (Option Token) := fun cursor => .ok cursor.rest.head? cursor

/-- Moves past the next token. -/
def advance : Parser Unit := fun cursor => .ok () { cursor with rest := cursor.rest.tail }

/-- Moves past a keyword, or fails without moving. -/
def expectKeyword (keyword : Keyword) : Parser Unit := do
  match ← peek with
  | some token =>
    if token.isKeyword keyword then advance else throw (.expectedKeyword keyword token)
  | none => throw (.expectedKeyword keyword none)

/-- Reads a value one level deeper, unless too many levels are open. The level is closed again
whether the value is read or not. -/
def nested {α : Type} (token : Token) (inner : Parser α) : Parser α := fun cursor =>
  if maxNesting ≤ cursor.openLevels then .error (.nestingTooDeep token) cursor
  else
    match inner { cursor with openLevels := cursor.openLevels + 1 } with
    | .ok value after => .ok value { after with openLevels := after.openLevels - 1 }
    | .error cause after => .error cause { after with openLevels := after.openLevels - 1 }

/-- Accepts a condition built at a token, unless it is too high. -/
def checkHeight (token : Token) (condition : Condition) : Parser Condition :=
  if maxNesting < condition.height then throw (.nestingTooDeep token) else pure condition

/-- A column, an operator and a literal. Three tokens must be left, and all three are consumed
before any of them is judged. -/
def comparison : Parser Condition := do
  let cursor ← get
  match cursor.rest with
  | column :: operator :: literal :: rest =>
    set { cursor with rest := rest }
    if column.kind ≠ .word then throw (.unexpectedToken column)
    match Operator.ofToken? operator, Literal.ofToken? literal with
    | none, _ => throw (.unknownOperator operator)
    | some _, none => throw (.invalidLiteral literal)
    | some operator, some literal => pure (.comparison column.text operator literal)
  | rest => throw (.malformedComparison rest.head?)

/-- Further operands, each after the keyword, joined to what stands on their left; there are at
most `bound` of them. -/
def joinMore (keyword : Keyword) (join : Condition → Condition → Condition)
    (operand : Parser Condition) : (bound : Nat) → Condition → Parser Condition
  | 0, left => pure left
  | bound + 1, left => do
    match ← peek with
    | some token =>
      if token.isKeyword keyword then
        advance
        let right ← operand
        let joined ← checkHeight token (join left right)
        joinMore keyword join operand bound joined
      else pure left
    | none => pure left

/-- One or more operands with the keyword between them, joined from the left. Every further operand
adds a level to the condition, so the height it may have bounds their number. -/
def joined (keyword : Keyword) (join : Condition → Condition → Condition)
    (operand : Parser Condition) : Parser Condition := do
  let first ← operand
  joinMore keyword join operand maxNesting first

/-- Conjunctions of operands with disjunctions between them. -/
def disjunction (operand : Parser Condition) : Parser Condition :=
  joined .or .or (joined .and .and operand)

/-- Moves past the closing parenthesis that belongs to an opening one. -/
def closeParen (opening : Token) : Parser Unit := do
  match ← peek with
  | some token =>
    if token.kind = .rightParen then advance else throw (.unclosedParenthesis opening.position)
  | none => throw (.unclosedParenthesis opening.position)

/-- A negation, a condition in parentheses or a comparison, given how to read an operand one level
deeper. -/
def operandWith (deeper : Token → Parser Condition) : Parser Condition := do
  match ← peek with
  | none => throw (.endOfInput .operand)
  | some token =>
    if token.isKeyword .not then
      advance
      let inner ← nested token (deeper token)
      checkHeight token (.not inner)
    else if token.kind = .leftParen then
      advance
      let inner ← nested token (disjunction (deeper token))
      closeParen token
      pure inner
    else comparison

/-- An operand that may open a number of further levels. -/
def operand : (levels : Nat) → Parser Condition
  | 0 => operandWith fun token => throw (.nestingTooDeep token)
  | levels + 1 => operandWith fun _ => operand levels

/-- A whole condition. -/
def condition : Parser Condition := do
  disjunction (operand (maxNesting - (← get).openLevels))

/-- Whether a token may name a column in a selection list. -/
def isColumnName (token : Token) : Bool :=
  token.kind = .word && token.text ≠ "*" && !token.isKeyword .from

/-- The columns up to `FROM`, or up to the end of the tokens. -/
def columnList : Parser Selection := do
  let cursor ← get
  let after := cursor.rest.dropWhile isColumnName
  set { cursor with rest := after }
  match after.head? with
  | some token => if !token.isKeyword .from then throw (.invalidSelection token)
  | none => pure ()
  match cursor.rest.takeWhile isColumnName with
  | [] => throw .emptySelection
  | names => pure (.columns (names.map (·.text)))

/-- A `*` that stands alone, or a list of columns. -/
def selection : Parser Selection := do
  match ← peek with
  | none => throw (.endOfInput .selection)
  | some first =>
    if first.isWord "*" then
      advance
      match ← peek with
      | some token =>
        if token.kind = .word && !token.isKeyword .from && !token.isKeyword .where then
          throw (.invalidSelection token)
        else pure .all
      | none => pure .all
    else columnList

/-- The source, which is always `$`, the rows handed to the query. -/
def source : Parser Unit := do
  match ← peek with
  | none => throw (.endOfInput .source)
  | some token =>
    advance
    if token.isWord "$" then pure () else throw (.invalidSource token)

/-- The condition after `WHERE`, if there is one. -/
def whereClause : Parser (Option Condition) := do
  match ← peek with
  | some token =>
    if token.isKeyword .where then
      advance
      match ← peek with
      | none => throw (.endOfInput .condition)
      | some _ => return some (← condition)
    else pure none
  | none => pure none

/-- Fails on a token that is left over, moving past it. -/
def finish : Parser Unit := do
  match ← peek with
  | none => pure ()
  | some token =>
    advance
    throw (.unexpectedToken token)

/-- A whole query, which takes up every token. -/
def query : Parser Query := do
  expectKeyword .select
  let selection ← selection
  expectKeyword .from
  source
  let condition ← whereClause
  finish
  return ⟨selection, condition⟩

end Parser

namespace Query

/-- The query that some tokens form. -/
def ofTokens (tokens : List Token) : Except ParseError Query :=
  match Parser.query ⟨tokens, 0⟩ with
  | .ok query _ => .ok query
  | .error cause _ => .error cause

/-- The query that a text spells. -/
def parse (text : String) : Except ParseError Query :=
  match Token.tokenize text with
  | .ok tokens => ofTokens tokens
  | .error unterminated => .error (.unterminatedString unterminated.position)

end Query

end RowQuery
