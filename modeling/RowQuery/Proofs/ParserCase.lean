import RowQuery.Proofs.QueryReading
import RowQuery.Proofs.TokenCase

/-! # Reading tokens in lower case

Tokens whose letters are put into lower case are read as the tokens themselves are, with the names
in what is read, and the tokens in what is reported, in lower case too. A parser that does so
(`Parser.Folds`) is made of steps that do, down to the tests of single tokens, so the parser of
queries does so (`Parser.query_folds`), and texts that are alike come to the same query up to case
(`Query.parse_alike`).
-/

namespace RowQuery

/-! ## What is read in lower case -/

/-- A failure with the tokens that it names in lower case. -/
def ParseError.foldCase : ParseError → ParseError
  | .unexpectedToken token => .unexpectedToken token.foldCase
  | .expectedKeyword keyword found => .expectedKeyword keyword (found.map Token.foldCase)
  | .endOfInput missing => .endOfInput missing
  | .unterminatedString position => .unterminatedString position
  | .unclosedParenthesis position => .unclosedParenthesis position
  | .malformedComparison found => .malformedComparison (found.map Token.foldCase)
  | .unknownOperator token => .unknownOperator token.foldCase
  | .invalidLiteral token => .invalidLiteral token.foldCase
  | .invalidSource token => .invalidSource token.foldCase
  | .invalidSelection token => .invalidSelection token.foldCase
  | .emptySelection => .emptySelection
  | .nestingTooDeep token => .nestingTooDeep token.foldCase

/-- Folding the case of an error keeps its kind. -/
theorem ParseError.kind_foldCase (cause : ParseError) : cause.foldCase.kind = cause.kind := by
  cases cause <;> rfl

/-- A condition with its names in lower case. -/
def Condition.foldCase : Condition → Condition
  | .comparison name operator literal => .comparison (Text.foldCase name) operator literal
  | .and left right => .and left.foldCase right.foldCase
  | .or left right => .or left.foldCase right.foldCase
  | .not inner => .not inner.foldCase

private theorem Condition.height_foldCase (condition : Condition) :
    condition.foldCase.height = condition.height := by
  induction condition with
  | comparison name operator literal => rfl
  | and left right ihLeft ihRight => rw [foldCase, height, height, ihLeft, ihRight]
  | or left right ihLeft ihRight => rw [foldCase, height, height, ihLeft, ihRight]
  | not inner ih => rw [foldCase, height, height, ih]

/-- A selection with its names in lower case. -/
def Selection.foldCase : Selection → Selection
  | .all => .all
  | .columns names => .columns (names.map Text.foldCase)

/-- A query with its names in lower case. -/
def Query.foldCase (query : Query) : Query :=
  ⟨query.selection.foldCase, query.condition.map Condition.foldCase⟩

/-- A place in some tokens, with the tokens in lower case. -/
def Cursor.foldCase (cursor : Cursor) : Cursor :=
  ⟨cursor.rest.map Token.foldCase, cursor.openLevels⟩

/-! ## Tests of single tokens -/

namespace Token

/-- Folding the case of a token keeps its kind. -/
@[simp] theorem kind_foldCase (token : Token) : token.foldCase.kind = token.kind := rfl

/-- Folding the case of a token folds its text. -/
@[simp] theorem text_foldCase (token : Token) :
    token.foldCase.text = Text.foldCase token.text := rfl

/-- Keywords are recognised in any case. -/
theorem isKeyword_foldCase (token : Token) (keyword : Keyword) :
    token.foldCase.isKeyword keyword = token.isKeyword keyword :=
  congrArg (decide (token.kind = .word) && ·) (Text.sameIgnoringCase_foldCase _ _)

private theorem isWord_foldCase {text : String} (plain : text.toList.all Text.caseless = true)
    (token : Token) : token.foldCase.isWord text = token.isWord text := by
  have same : decide (Text.foldCase token.text = text) = decide (token.text = text) :=
    decide_eq_decide.mpr (Text.foldCase_eq_iff plain token.text)
  exact congrArg (decide (token.kind = .word) && ·) same

end Token

/-- Operators are recognised in any case. -/
theorem Operator.ofToken?_foldCase (token : Token) :
    ofToken? token.foldCase = ofToken? token := by
  have symbols (operator : Operator) :
      operator.symbol = Text.foldCase token.text ↔ operator.symbol = token.text := by
    have plain : operator.symbol.toList.all Text.caseless = true := by cases operator <;> decide
    rw [eq_comm, Text.foldCase_eq_iff plain, eq_comm]
  simp only [ofToken?, ofSymbol?, Token.kind_foldCase, Token.text_foldCase, symbols]

/-- Literals are recognised in any case. -/
theorem Literal.ofToken?_foldCase (token : Token) : ofToken? token.foldCase = ofToken? token := by
  simp only [ofToken?, Token.kind_foldCase, Token.text_foldCase, ofWord?_foldCase]

/-- Names of columns are recognised in any case. -/
theorem Parser.isColumnName_foldCase (token : Token) :
    isColumnName token.foldCase = isColumnName token := by
  have star : decide (Text.foldCase token.text ≠ "*") = decide (token.text ≠ "*") :=
    decide_eq_decide.mpr (not_congr (Text.foldCase_eq_iff (by decide) token.text))
  unfold isColumnName
  rw [Token.isKeyword_foldCase, Token.text_foldCase, star]
  rfl

namespace Parser

open Grammar

variable {α β γ δ : Type}

/-- What a parser comes to, with its value and the tokens it leaves or reports in lower case. -/
def foldResult (fold : α → β) :
    EStateM.Result ParseError Cursor α → EStateM.Result ParseError Cursor β
  | .ok value after => .ok (fold value) after.foldCase
  | .error cause after => .error cause.foldCase after.foldCase

/-- Whether a parser comes to the same on tokens in lower case as another one does on the tokens
themselves, up to case. -/
def Folds (fold : α → β) (read : Parser α) (lowered : Parser β) : Prop :=
  ∀ cursor : Cursor, lowered cursor.foldCase = foldResult fold (read cursor)

namespace Folds

variable {fold : α → β} {fold' : γ → δ}

/-- Returning a value folds the value. -/
theorem pure (value : α) : Folds fold (pure value) (pure (fold value)) := fun _ => rfl

/-- Failing folds the error. -/
theorem throw (cause : ParseError) : Folds fold (throw cause) (throw cause.foldCase) := fun _ => rfl

/-- Two readers in a row fold if both do. -/
theorem bind {first : Parser α} {lowered : Parser β} {next : α → Parser γ}
    {nextLowered : β → Parser δ} (starts : Folds fold first lowered)
    (continues : ∀ value, Folds fold' (next value) (nextLowered (fold value))) :
    Folds fold' (first >>= next) (lowered >>= nextLowered) := by
  intro cursor
  have start := starts cursor
  cases read : first cursor with
  | ok value after =>
      rw [read] at start
      rw [bind_of_ok start, bind_of_ok read]
      exact continues value after
  | error cause after =>
      rw [read] at start
      rw [bind_of_error start, bind_of_error read]
      rfl

/-- A choice by a test that does not depend on case. -/
theorem ite {condition other : Prop} [Decidable condition] [Decidable other]
    (same : other ↔ condition) {yes no : Parser α} {yesLowered noLowered : Parser β}
    (holds : Folds fold yes yesLowered) (fails : Folds fold no noLowered) :
    Folds fold (if condition then yes else no) (if other then yesLowered else noLowered) := by
  by_cases met : condition
  · rw [if_pos met, if_pos (same.mpr met)]
    exact holds
  · rw [if_neg met, if_neg fun otherMet => met (same.mp otherMet)]
    exact fails

end Folds

/-! ## Single steps -/

private theorem peek_folds : Folds (Option.map Token.foldCase) peek peek := by
  intro cursor
  unfold peek
  rw [Cursor.foldCase, List.head?_map]
  rfl

private theorem advance_folds : Folds id advance advance := by
  intro cursor
  unfold advance
  rw [Cursor.foldCase, ← List.map_tail]
  rfl

private theorem get_folds : Folds Cursor.foldCase get get := fun _ => rfl

private theorem set_folds (cursor : Cursor) :
    Folds id (set cursor) (set cursor.foldCase) := fun _ => rfl

private theorem expectKeyword_folds (keyword : Keyword) :
    Folds id (expectKeyword keyword) (expectKeyword keyword) := by
  apply Folds.bind peek_folds
  intro found
  cases found with
  | none => exact Folds.throw _
  | some token =>
      apply Folds.ite
      · rw [Token.isKeyword_foldCase]
      · exact advance_folds
      · exact Folds.throw _

/-- **Opening a level.** Whether there is room for it does not depend on the tokens. -/
theorem nested_folds (token : Token) {inner lowered : Parser Condition}
    (folds : Folds Condition.foldCase inner lowered) :
    Folds Condition.foldCase (nested token inner) (nested token.foldCase lowered) := by
  rintro ⟨tokens, opened⟩
  have deeper := folds ⟨tokens, opened + 1⟩
  rcases Nat.lt_or_ge opened maxNesting with room | full
  · cases read : inner ⟨tokens, opened + 1⟩ with
    | ok value after =>
        rw [read] at deeper
        rw [nested_of_ok room read]
        exact nested_of_ok room deeper
    | error cause after =>
        rw [read] at deeper
        rw [nested_of_error room read]
        exact nested_of_error room deeper
  · rw [nested_of_full full]
    exact nested_of_full full

private theorem checkHeight_folds (token : Token) (condition : Condition) :
    Folds Condition.foldCase (checkHeight token condition)
      (checkHeight token.foldCase condition.foldCase) := by
  apply Folds.ite
  · rw [Condition.height_foldCase]
  · exact Folds.throw _
  · exact Folds.pure _

/-- A comparison judges each of its three tokens by tests that do not depend on case. -/
theorem comparison_folds : Folds Condition.foldCase comparison comparison := by
  rintro ⟨tokens, opened⟩
  match tokens with
  | [] => rfl
  | [_] => rfl
  | [_, _] => rfl
  | column :: operatorToken :: literalToken :: rest =>
      have operators := Operator.ofToken?_foldCase operatorToken
      have literals := Literal.ofToken?_foldCase literalToken
      have names := Token.kind_foldCase column
      by_cases named : column.kind = .word
      · cases compares : Operator.ofToken? operatorToken with
        | none =>
            rw [comparison_of_unknown named compares]
            exact comparison_of_unknown (names.trans named) (operators.trans compares)
        | some operator =>
            cases valued : Literal.ofToken? literalToken with
            | none =>
                rw [comparison_of_invalid named compares valued]
                exact comparison_of_invalid (names.trans named) (operators.trans compares)
                  (literals.trans valued)
            | some literal =>
                rw [comparison_apply named compares valued]
                exact comparison_apply (names.trans named) (operators.trans compares)
                  (literals.trans valued) _
      · rw [comparison_of_unnamed named]
        exact comparison_of_unnamed (names ▸ named)

private theorem closeParen_folds (opening : Token) :
    Folds id (closeParen opening) (closeParen opening.foldCase) := by
  apply Folds.bind peek_folds
  intro found
  cases found with
  | none => exact Folds.throw _
  | some token =>
      apply Folds.ite
      · rfl
      · exact advance_folds
      · exact Folds.throw _

/-! ## Conditions -/

section Joining

variable {read lowered : Parser Condition} (folds : Folds Condition.foldCase read lowered)

include folds

/-- Operands that follow a junction fold, if one operand does. -/
theorem joinMore_folds (keyword : Keyword) {join : Condition → Condition → Condition}
    (joins : ∀ left right, (join left right).foldCase = join left.foldCase right.foldCase)
    (bound : Nat) (left : Condition) :
    Folds Condition.foldCase (joinMore keyword join read bound left)
      (joinMore keyword join lowered bound left.foldCase) := by
  induction bound generalizing left with
  | zero => exact Folds.pure left
  | succ bound ih =>
      apply Folds.bind peek_folds
      intro found
      cases found with
      | none => exact Folds.pure left
      | some token =>
          apply Folds.ite
          · rw [Token.isKeyword_foldCase]
          · apply Folds.bind advance_folds
            intro _
            apply Folds.bind folds
            intro right
            rw [← joins]
            apply Folds.bind (checkHeight_folds token _)
            intro joined
            exact ih joined
          · exact Folds.pure left

private theorem joined_folds (keyword : Keyword) {join : Condition → Condition → Condition}
    (joins : ∀ left right, (join left right).foldCase = join left.foldCase right.foldCase) :
    Folds Condition.foldCase (joined keyword join read) (joined keyword join lowered) := by
  apply Folds.bind folds
  intro first
  exact joinMore_folds folds keyword joins maxNesting first

private theorem disjunction_folds :
    Folds Condition.foldCase (disjunction read) (disjunction lowered) := by
  have conjunctions :
      Folds Condition.foldCase (joined .and .and read) (joined .and .and lowered) :=
    joined_folds folds .and fun _ _ => rfl
  exact joined_folds conjunctions .or fun _ _ => rfl

end Joining

/-- An operand folds, if what is read a level deeper does. -/
theorem operandWith_folds {deeper : Token → Parser Condition}
    (folds : ∀ token, Folds Condition.foldCase (deeper token) (deeper token.foldCase)) :
    Folds Condition.foldCase (operandWith deeper) (operandWith deeper) := by
  apply Folds.bind peek_folds
  intro found
  cases found with
  | none => exact Folds.throw _
  | some token =>
      apply Folds.ite
      · rw [Token.isKeyword_foldCase]
      · apply Folds.bind advance_folds
        intro _
        apply Folds.bind (nested_folds token (folds token))
        intro inner
        exact checkHeight_folds token (.not inner)
      · apply Folds.ite
        · rw [Token.kind_foldCase]
        · apply Folds.bind advance_folds
          intro _
          apply Folds.bind (nested_folds token (disjunction_folds (folds token)))
          intro inner
          apply Folds.bind (closeParen_folds token)
          intro _
          exact Folds.pure inner
        · exact comparison_folds

/-- An operand folds, whatever levels there are. -/
theorem operand_folds (levels : Nat) :
    Folds Condition.foldCase (operand levels) (operand levels) := by
  induction levels with
  | zero => exact operandWith_folds fun token => Folds.throw (.nestingTooDeep token)
  | succ levels ih => exact operandWith_folds fun _ => ih

/-- A condition is read alike in any case. -/
theorem condition_folds : Folds Condition.foldCase condition condition := by
  apply Folds.bind get_folds
  intro cursor
  exact disjunction_folds (operand_folds (maxNesting - cursor.openLevels))

/-! ## Queries -/

private theorem columnList_folds : Folds Selection.foldCase columnList columnList := by
  have named : isColumnName ∘ Token.foldCase = isColumnName := funext isColumnName_foldCase
  apply Folds.bind get_folds
  intro cursor
  simp only [Cursor.foldCase, List.dropWhile_map, List.takeWhile_map, List.head?_map, named]
  apply Folds.bind (set_folds _)
  intro _
  -- The token after the names is judged first, and then whether there are names.
  generalize (cursor.rest.dropWhile isColumnName).head? = next
  generalize cursor.rest.takeWhile isColumnName = names
  cases names with
  | nil =>
      cases next with
      | none => exact Folds.throw .emptySelection
      | some token =>
          apply Folds.ite
          · rw [Token.isKeyword_foldCase]
          · exact fun _ => rfl
          · exact Folds.throw .emptySelection
  | cons name names =>
      have texts : ((name :: names).map Token.foldCase).map (·.text) =
          ((name :: names).map (·.text)).map Text.foldCase := by
        rw [List.map_map, List.map_map]
        rfl
      have listed : Folds Selection.foldCase
          (pure (.columns ((name :: names).map (·.text))))
          (pure (.columns (((name :: names).map Token.foldCase).map (·.text)))) := by
        rw [texts]
        exact Folds.pure (Selection.columns _)
      cases next with
      | none => exact listed
      | some token =>
          apply Folds.ite
          · rw [Token.isKeyword_foldCase]
          · exact fun _ => rfl
          · exact listed

/-- A selection is read alike in any case. -/
theorem selection_folds : Folds Selection.foldCase selection selection := by
  apply Folds.bind peek_folds
  intro found
  cases found with
  | none => exact Folds.throw _
  | some first =>
      apply Folds.ite
      · rw [Token.isWord_foldCase (by decide)]
      · apply Folds.bind advance_folds
        intro _
        apply Folds.bind peek_folds
        intro next
        cases next with
        | none => exact Folds.pure Selection.all
        | some token =>
            apply Folds.ite
            · rw [Token.isKeyword_foldCase, Token.isKeyword_foldCase]
              rfl
            · exact Folds.throw _
            · exact Folds.pure Selection.all
      · exact columnList_folds

private theorem source_folds : Folds id source source := by
  apply Folds.bind peek_folds
  intro found
  cases found with
  | none => exact Folds.throw _
  | some token =>
      apply Folds.bind advance_folds
      intro _
      apply Folds.ite
      · rw [Token.isWord_foldCase (by decide)]
      · exact Folds.pure ()
      · exact Folds.throw _

/-- A restriction is read alike in any case. -/
theorem whereClause_folds : Folds (Option.map Condition.foldCase) whereClause whereClause := by
  apply Folds.bind peek_folds
  intro found
  cases found with
  | none => exact Folds.pure none
  | some token =>
      apply Folds.ite
      · rw [Token.isKeyword_foldCase]
      · apply Folds.bind advance_folds
        intro _
        apply Folds.bind peek_folds
        intro next
        cases next with
        | none => exact Folds.throw _
        | some first =>
            apply Folds.bind condition_folds
            intro condition
            exact Folds.pure (some condition)
      · exact Folds.pure none

private theorem finish_folds : Folds id finish finish := by
  apply Folds.bind peek_folds
  intro found
  cases found with
  | none => exact Folds.pure ()
  | some token =>
      apply Folds.bind advance_folds
      intro _
      exact Folds.throw _

/-- **Queries.** Tokens in lower case are read as the tokens themselves are. -/
theorem query_folds : Folds Query.foldCase query query := by
  apply Folds.bind (expectKeyword_folds .select)
  intro _
  apply Folds.bind selection_folds
  intro selection
  apply Folds.bind (expectKeyword_folds .from)
  intro _
  apply Folds.bind source_folds
  intro _
  apply Folds.bind whereClause_folds
  intro condition
  apply Folds.bind finish_folds
  intro _
  exact Folds.pure (Query.mk selection condition)

end Parser

namespace Query

/-- Tokens are read alike in any case, as a query or as an error. -/
theorem ofTokens_foldCase (tokens : List Token) :
    ofTokens (tokens.map Token.foldCase) =
      ((ofTokens tokens).map foldCase).mapError ParseError.foldCase := by
  have folds := Parser.query_folds ⟨tokens, 0⟩
  unfold ofTokens
  change Parser.query ⟨tokens.map Token.foldCase, 0⟩ = _ at folds
  rw [folds]
  cases Parser.query ⟨tokens, 0⟩ <;> rfl

/-- What a text spells up to case depends only on its tokens up to case. -/
theorem parse_foldCase (text : String) :
    ((parse text).map foldCase).mapError ParseError.foldCase =
      ((Token.tokenize text).map (List.map Token.foldCase)).mapError
        (fun unterminated => .unterminatedString unterminated.position) >>= ofTokens := by
  unfold parse
  cases Token.tokenize text with
  | error unterminated => rfl
  | ok tokens => exact (ofTokens_foldCase tokens).symm

/-- **Alike texts.** They spell the same query up to the case of its names, or fail in the same way
up to the case of the token that is reported. -/
theorem parse_alike {text other : String} (alike : Text.AlikeOutsideStrings text other) :
    ((parse text).map foldCase).mapError ParseError.foldCase =
      ((parse other).map foldCase).mapError ParseError.foldCase := by
  rw [parse_foldCase, parse_foldCase, Token.tokenize_alike alike]

end Query

end RowQuery
