import RowQuery.Proofs.LiteralText
import RowQuery.Proofs.QueryReading

/-! # Conditions read back

The text of a condition is a sequence of tokens that the grammar derives as an operand, one level of
parentheses or negation for each level of the tree (`Grammar.scans_text`). So a query for a
well-formed condition reads as that condition (`Grammar.parse_text`).
-/

namespace RowQuery

namespace Condition

/-- A condition, with one pattern for all floats that are not numbers. -/
def identifyNaN : Condition → Condition
  | .comparison column operator literal => .comparison column operator literal.identifyNaN
  | .and left right => .and left.identifyNaN right.identifyNaN
  | .or left right => .or left.identifyNaN right.identifyNaN
  | .not inner => .not inner.identifyNaN

/-- The names of the columns that a condition compares, from left to right. -/
def columnNames : Condition → List String
  | .comparison column _ _ => [column]
  | .and left right => left.columnNames ++ right.columnNames
  | .or left right => left.columnNames ++ right.columnNames
  | .not inner => inner.columnNames

/-- Whether a text can name a column: it is not empty, has neither white space nor any of the
characters that divide or form other tokens, and is not `NOT` in any case of its letters. -/
def Names (column : String) : Prop :=
  column.toList ≠ [] ∧
    (∀ c ∈ column.toList, Text.isSpace c = false ∧
      c ∉ [',', ';', '(', ')', '\'', '!', '>', '<', '=']) ∧
    Text.sameIgnoringCase column "NOT" = false

/-- Whether a condition is no more than 256 levels high and compares columns that can be named. -/
structure WellFormed (condition : Condition) : Prop where
  /-- The condition is not too high. -/
  low : condition.height ≤ 256
  /-- Every column can be named. -/
  named : ∀ column ∈ condition.columnNames, Names column

private theorem height_identifyNaN : ∀ condition : Condition,
    condition.identifyNaN.height = condition.height
  | .comparison _ _ _ => rfl
  | .and left right => by
      rw [identifyNaN, height, height, height_identifyNaN left, height_identifyNaN right]
  | .or left right => by
      rw [identifyNaN, height, height, height_identifyNaN left, height_identifyNaN right]
  | .not inner => by rw [identifyNaN, height, height, height_identifyNaN inner]

/-- The names of columns in conditions are runs other than `NOT`. -/
theorem names_iff {column : String} :
    Names column ↔ Token.IsRun column ∧ Text.sameIgnoringCase column "NOT" = false := by
  have plain : ∀ c : Char, (Text.isSpace c = false ∧
      c ∉ [',', ';', '(', ')', '\'', '!', '>', '<', '=']) ↔ Token.isWordChar c = true := by
    intro c
    simp only [Token.isWordChar_iff, Token.isSeparator, Bool.or_eq_false_iff,
      decide_eq_false_iff_not, List.mem_cons, List.not_mem_nil, or_false, not_or, and_assoc, ne_eq]
  simp only [Names, Token.IsRun, plain, and_assoc]

instance (column : String) : Decidable (Names column) := decidable_of_iff _ names_iff.symm

end Condition

/-! ## Text as tokens -/

namespace Grammar

open Token

private theorem scan_word_blank {word : String} (run : IsRun word) (position : Nat)
    (rest : List Char) :
    scan position (word.toList ++ ' ' :: rest) =
      before [⟨.word, word, position⟩]
        (scan (position + Text.byteLength word.toList + 1) rest) := by
  rw [scan_word run.1 run.2 (bounded_blank rest), scan_blank, String.ofList_toList]

private theorem scan_symbol_blank (operator : Operator) (position : Nat) (rest : List Char) :
    scan position (operator.symbol.toList ++ ' ' :: rest) =
      before [⟨.symbol, operator.symbol, position⟩]
        (scan (position + Text.byteLength operator.symbol.toList + 1) rest) := by
  have found : ∃ c after, operator.symbol.toList = c :: after ∧ isSeparator c = false ∧
      lexeme? c (after ++ ' ' :: rest) =
        some ⟨.symbol, operator.symbol.toList, ' ' :: rest⟩ := by
    cases operator <;> exact ⟨_, _, rfl, by decide, rfl⟩
  obtain ⟨c, after, spelled, kept, lexed⟩ := found
  have cut := scan_lexeme kept lexed position
  rw [← List.cons_append, ← spelled, String.ofList_toList] at cut
  rw [cut, scan_blank]

/-- Whether a text, wherever it stands before a boundary, is cut into the tokens of an operand with
a condition, which opens one level less than a given height. -/
def Scans (text : List Char) (condition : Condition) (height : Nat) : Prop :=
  ∀ position, ∃ derivation : Derivation .operand, derivation.condition = condition ∧
    derivation.openLevels + 1 = height ∧ ∀ rest, Bounded rest →
      scan position (text ++ rest) =
        before derivation.tokens (scan (position + Text.byteLength text) rest)

/-- The text of a comparison is scanned as that comparison. -/
theorem scans_comparison {column : String} (named : Condition.Names column) (operator : Operator)
    (literal : Literal) :
    Scans (Condition.comparisonText column operator literal).toList
      (.comparison column operator literal.identifyNaN) 1 := by
  intro position
  obtain ⟨run, free⟩ := Condition.names_iff.mp named
  obtain ⟨token, stands, cut⟩ := literal.scan_text
    (position + Text.byteLength column.toList + 1 + Text.byteLength operator.symbol.toList + 1)
  refine ⟨.comparison ⟨.word, column, position⟩
    ⟨.symbol, operator.symbol, position + Text.byteLength column.toList + 1⟩ token operator
    literal.identifyNaN rfl free ⟨rfl, rfl⟩ stands, rfl, rfl, fun rest bounded => ?_⟩
  have text : (Condition.comparisonText column operator literal).toList = column.toList ++
      ' ' :: (operator.symbol.toList ++ ' ' :: literal.text.toList) := by
    simp [Condition.comparisonText]
  have length : position + Text.byteLength (Condition.comparisonText column operator literal).toList
      = position + Text.byteLength column.toList + 1 + Text.byteLength operator.symbol.toList + 1 +
        Text.byteLength literal.text.toList := by
    rw [text, byteLength_append, Text.byteLength, byteLength_append, Text.byteLength,
      show ' '.utf8Size = 1 from rfl]
    omega
  rw [length, text]
  simp only [List.append_assoc, List.cons_append]
  rw [scan_word_blank run, scan_symbol_blank, cut rest bounded, before_before, before_before]
  rfl

private theorem isRun_keyword (keyword : Keyword) : IsRun keyword.text := by
  cases keyword <;> decide

private theorem isKeyword_text (keyword : Keyword) (position : Nat) :
    (Token.mk .word keyword.text position).isKeyword keyword = true := by
  simp only [isKeyword, decide_true, Bool.true_and, Text.sameIgnoringCase]

/-- The word `NOT` before a text is scanned as its negation, one level higher. -/
theorem Scans.negation {text : List Char} {condition : Condition} {height : Nat}
    (scans : Scans text condition height) :
    Scans (Keyword.not.text.toList ++ ' ' :: text) (.not condition) (height + 1) := by
  intro position
  obtain ⟨inner, rfl, levels, cut⟩ :=
    scans (position + Text.byteLength Keyword.not.text.toList + 1)
  refine ⟨.negation ⟨.word, Keyword.not.text, position⟩ (isKeyword_text .not position) inner, rfl,
    congrArg (· + 1) levels, fun rest bounded => ?_⟩
  have length : position + Text.byteLength (Keyword.not.text.toList ++ ' ' :: text) =
      position + Text.byteLength Keyword.not.text.toList + 1 + Text.byteLength text := by
    rw [byteLength_append, Text.byteLength, show ' '.utf8Size = 1 from rfl]
    omega
  rw [length, List.append_assoc, List.cons_append, scan_word_blank (isRun_keyword .not),
    cut rest bounded, before_before]
  rfl

/-- Two operands with a keyword between them are derived as a disjunction, whichever the keyword. -/
theorem exists_joined (junction : Junction) {keyword : Token}
    (joins : keyword.isKeyword junction.keyword = true) (left right : Derivation .operand) :
    ∃ derivation : Derivation (.joined .or),
      derivation.tokens = left.tokens ++ keyword :: right.tokens ∧
      derivation.condition = junction.join left.condition right.condition ∧
      derivation.openLevels = max left.openLevels right.openLevels := by
  cases junction with
  | and =>
      let conjunction : Derivation (.joined .and) := .joined left (.next keyword joins right .none)
      let disjunction : Derivation (.joined .or) := .joined conjunction .none
      refine ⟨disjunction, ?_, rfl, ?_⟩
      · change (left.tokens ++ keyword :: (right.tokens ++ [])) ++ [] = _
        rw [List.append_nil, List.append_nil]
      · change max (max left.openLevels (max right.openLevels 0)) 0 = _
        rw [Nat.max_zero, Nat.max_zero]
  | or =>
      let first : Derivation (.joined .and) := .joined left .none
      let second : Derivation (.joined .and) := .joined right .none
      let disjunction : Derivation (.joined .or) := .joined first (.next keyword joins second .none)
      refine ⟨disjunction, ?_, rfl, ?_⟩
      · change (left.tokens ++ []) ++ keyword :: ((right.tokens ++ []) ++ []) = _
        rw [List.append_nil, List.append_nil, List.append_nil]
      · change max (max left.openLevels 0) (max (max right.openLevels 0) 0) = _
        rw [Nat.max_zero, Nat.max_zero, Nat.max_zero]

/-- Two texts joined between parentheses are scanned as the joined conditions. -/
theorem Scans.joined (junction : Junction) {left right : List Char} {first second : Condition}
    {height height' : Nat} (scansLeft : Scans left first height)
    (scansRight : Scans right second height') :
    Scans ('(' :: (left ++ ' ' :: (junction.keyword.text.toList ++ ' ' :: (right ++ [')']))))
      (junction.join first second) (max height height' + 1) := by
  intro position
  obtain ⟨leftDerivation, rfl, leftLevels, cutLeft⟩ := scansLeft (position + 1)
  obtain ⟨rightDerivation, rfl, rightLevels, cutRight⟩ := scansRight (position + 1 +
    Text.byteLength left + 1 + Text.byteLength junction.keyword.text.toList + 1)
  obtain ⟨inner, tokens, joined, levels⟩ := exists_joined junction
    (isKeyword_text junction.keyword (position + 1 + Text.byteLength left + 1)) leftDerivation
    rightDerivation
  let last := position + 1 + Text.byteLength left + 1 +
    Text.byteLength junction.keyword.text.toList + 1 + Text.byteLength right
  refine ⟨.group ⟨.leftParen, "(", position⟩ rfl inner ⟨.rightParen, ")", last⟩ rfl, joined, ?_,
    fun rest bounded => ?_⟩
  · change inner.openLevels + 1 + 1 = _
    omega
  · have length : position + Text.byteLength ('(' :: (left ++ ' ' ::
        (junction.keyword.text.toList ++ ' ' :: (right ++ [')'])))) = last + 1 := by
      simp only [Text.byteLength, byteLength_append, show '('.utf8Size = 1 from rfl,
        show ')'.utf8Size = 1 from rfl, show ' '.utf8Size = 1 from rfl]
      omega
    rw [length]
    simp only [List.cons_append, List.append_assoc, List.nil_append]
    rw [scan_opening, cutLeft _ (bounded_blank _), scan_blank,
      scan_word_blank (isRun_keyword junction.keyword), cutRight _ (bounded_closing rest),
      scan_closing]
    simp only [before_before, Derivation.tokens, tokens, List.cons_append, List.append_assoc,
      List.nil_append]
    rfl

/-- **Texts of conditions.** The text of a condition with columns that can be named is cut into the
tokens of an operand that derives the condition. -/
theorem scans_text : ∀ condition : Condition,
    (∀ column ∈ condition.columnNames, Condition.Names column) →
    Scans condition.text.toList condition.identifyNaN condition.height
  | .comparison column operator literal, named =>
      scans_comparison (named column List.mem_cons_self) operator literal
  | .and left right, named => by
      have both := List.forall_mem_append.mp named
      have joined := (scans_text left both.1).joined .and (scans_text right both.2)
      have text : (Condition.and left right).text.toList = '(' :: (left.text.toList ++ ' ' ::
          (Keyword.and.text.toList ++ ' ' :: (right.text.toList ++ [')']))) := by
        simp [Condition.text, Keyword.text]
      rw [text]
      exact joined
  | .or left right, named => by
      have both := List.forall_mem_append.mp named
      have joined := (scans_text left both.1).joined .or (scans_text right both.2)
      have text : (Condition.or left right).text.toList = '(' :: (left.text.toList ++ ' ' ::
          (Keyword.or.text.toList ++ ' ' :: (right.text.toList ++ [')']))) := by
        simp [Condition.text, Keyword.text]
      rw [text]
      exact joined
  | .not inner, named => by
      have negation := (scans_text inner named).negation
      have text : (Condition.not inner).text.toList =
          Keyword.not.text.toList ++ ' ' :: inner.text.toList := by
        simp [Condition.text, Keyword.text]
      rw [text]
      exact negation

/-- The words before the condition of a query for whole rows. -/
theorem scan_header (rest : List Char) :
    scan 0 ("SELECT * FROM $ WHERE ".toList ++ rest) =
      before [⟨.word, "SELECT", 0⟩, ⟨.word, "*", 7⟩, ⟨.word, "FROM", 9⟩, ⟨.word, "$", 14⟩,
        ⟨.word, "WHERE", 16⟩] (scan 22 rest) := by
  change scan 0 ("SELECT".toList ++ ' ' :: ("*".toList ++ ' ' :: ("FROM".toList ++ ' ' ::
    ("$".toList ++ ' ' :: ("WHERE".toList ++ ' ' :: rest))))) = _
  rw [scan_word_blank (by decide), scan_word_blank (by decide), scan_word_blank (by decide),
    scan_word_blank (by decide), scan_word_blank (by decide)]
  simp only [before_before]
  rfl

/-- The derivation of a query for the whole rows that meet an operand. -/
def wholeRows (operand : Derivation .operand) : QueryDerivation where
  select := ⟨.word, "SELECT", 0⟩
  selects := isKeyword_text .select 0
  selection := .all ⟨.word, "*", 7⟩ rfl
  origin := ⟨.word, "FROM", 9⟩
  originates := isKeyword_text .from 9
  source := ⟨.word, "$", 14⟩
  given := rfl
  restriction :=
    some ⟨⟨.word, "WHERE", 16⟩, isKeyword_text .where 16, .joined (.joined operand .none) .none⟩

private theorem tokens_wholeRows (operand : Derivation .operand) :
    (wholeRows operand).tokens = [⟨.word, "SELECT", 0⟩, ⟨.word, "*", 7⟩, ⟨.word, "FROM", 9⟩,
      ⟨.word, "$", 14⟩, ⟨.word, "WHERE", 16⟩] ++ operand.tokens := by
  change [_, _, _, _, _] ++ (operand.tokens ++ [] ++ []) = _
  rw [List.append_nil, List.append_nil]
  rfl

private theorem openLevels_wholeRows (operand : Derivation .operand) :
    (wholeRows operand).openLevels = operand.openLevels := by
  change max (max operand.openLevels 0) 0 = _
  rw [Nat.max_zero, Nat.max_zero]

/-- **Well-formed conditions read back.** A query for the whole rows that meet a well-formed
condition reads as that query. -/
theorem parse_text {condition : Condition} (wellFormed : condition.WellFormed) :
    Query.parse ("SELECT * FROM $ WHERE " ++ condition.text) =
      .ok ⟨.all, some condition.identifyNaN⟩ := by
  obtain ⟨operand, derived, levels, cut⟩ := scans_text condition wellFormed.named 22
  have cutAll := cut [] bounded_nil
  rw [List.append_nil, scan] at cutAll
  have tokens : tokenize ("SELECT * FROM $ WHERE " ++ condition.text) =
      .ok (wholeRows operand).tokens := by
    rw [tokenize, String.toList_append, scan_header, cutAll, before_before, tokens_wholeRows]
    exact congrArg Except.ok (List.append_nil _)
  have low := wellFormed.low
  have height : (wholeRows operand).height = condition.height := by
    rw [← condition.height_identifyNaN, ← derived]
    rfl
  have query : (wholeRows operand).query = ⟨.all, some condition.identifyNaN⟩ := by
    rw [← derived]
    rfl
  obtain ⟨-, -, accepted⟩ | ⟨large, -⟩ := query_answers (wholeRows operand)
  · simp only [Query.parse, tokens]
    rw [accepted, query]
  · refine absurd ⟨?_, ?_⟩ large
    · rw [openLevels_wholeRows]
      change _ ≤ 256
      omega
    · rw [height]
      exact low

end Grammar

end RowQuery
