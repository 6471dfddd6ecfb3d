import RowQuery.Text.Quoted
import RowQuery.Text.Size
import RowQuery.Text.Space
import RowQuery.Token

/-! # Splitting a query text into tokens

Separators only divide tokens. Outside strings a token is a parenthesis, a comparison symbol as
long as possible, or a run of word characters as long as possible. Inside a string a doubled quote
stands for one quote, and any other quote ends it.
-/

namespace RowQuery.Token

/-- White space, commas and semicolons divide tokens and belong to none. -/
def isSeparator (c : Char) : Bool := Text.isSpace c || c = ',' || c = ';'

/-- The characters that make up bare words. -/
def isWordChar (c : Char) : Bool :=
  !(isSeparator c || c = '(' || c = ')' || c = '\'' || c = '!' || c = '>' || c = '<' || c = '=')

/-- What a string stands for and what follows it, given the characters after its opening quote;
nothing if it is never closed. -/
def quoted? : List Char → Option (List Char × List Char)
  | [] => none
  | '\'' :: '\'' :: rest => (quoted? rest).map fun (value, after) => ('\'' :: value, after)
  | c :: rest =>
    if c = '\'' then some ([], rest)
    else (quoted? rest).map fun (value, after) => (c :: value, after)

theorem length_of_quoted? {input value after : List Char}
    (closed : quoted? input = some (value, after)) : after.length < input.length := by
  fun_induction quoted? input generalizing value with
  | case1 => simp at closed
  | case2 rest ih =>
    obtain ⟨⟨inner, left⟩, found, same⟩ := Option.map_eq_some_iff.1 closed
    simp only [Prod.mk.injEq] at same
    have shorter := ih (same.2 ▸ found)
    simp only [List.length_cons]
    omega
  | case3 => simp_all
  | case4 c rest _ other ih =>
    obtain ⟨⟨inner, left⟩, found, same⟩ := Option.map_eq_some_iff.1 closed
    simp only [Prod.mk.injEq] at same
    have shorter := ih (same.2 ▸ found)
    simp only [List.length_cons]
    omega

/-- A token's class and characters, with the input that follows it. -/
structure Lexeme where
  /-- The class of the token. -/
  kind : TokenKind
  /-- The characters of the token. -/
  text : List Char
  /-- The input after the token. -/
  rest : List Char

/-- The token that starts with a character which is no separator; nothing if that character opens a
string that is never closed. -/
def lexeme? (c : Char) (rest : List Char) : Option Lexeme :=
  if c = '\'' then
    (quoted? rest).map fun (value, after) =>
      ⟨.string (String.ofList value), '\'' :: Text.doubleQuotes value ++ ['\''], after⟩
  else if c = '(' then some ⟨.leftParen, [c], rest⟩
  else if c = ')' then some ⟨.rightParen, [c], rest⟩
  else if c = '=' then some ⟨.symbol, [c], rest⟩
  else if c = '!' || c = '>' || c = '<' then
    match rest with
    | '=' :: after => some ⟨.symbol, [c, '='], after⟩
    | _ => some ⟨.symbol, [c], rest⟩
  else some ⟨.word, c :: rest.takeWhile isWordChar, rest.dropWhile isWordChar⟩

theorem length_of_lexeme? {c : Char} {rest : List Char} {lexeme : Lexeme}
    (found : lexeme? c rest = some lexeme) : lexeme.rest.length ≤ rest.length := by
  unfold lexeme? at found
  split at found
  · obtain ⟨⟨value, after⟩, closed, same⟩ := Option.map_eq_some_iff.1 found
    subst same
    exact Nat.le_of_lt (length_of_quoted? closed)
  · repeat' split at found
    all_goals simp only [Option.some.injEq] at found
    all_goals subst found
    all_goals simp
    exact (List.dropWhile_sublist _).length_le

/-- A string that starts at a byte offset and is never closed. -/
structure Unterminated where
  /-- The byte offset of the opening quote. -/
  position : Nat
  deriving DecidableEq

/-- The tokens of some input that starts at a byte offset. -/
def scan (position : Nat) : List Char → Except Unterminated (List Token)
  | [] => .ok []
  | c :: rest =>
    if isSeparator c then scan (position + c.utf8Size) rest
    else match found : lexeme? c rest with
      | none => .error ⟨position⟩
      | some lexeme =>
        have := length_of_lexeme? found
        (scan (position + Text.byteLength lexeme.text) lexeme.rest).map
          (⟨lexeme.kind, String.ofList lexeme.text, position⟩ :: ·)
termination_by input => input.length

/-- The tokens of a query text. -/
def tokenize (text : String) : Except Unterminated (List Token) := scan 0 text.toList

end RowQuery.Token
