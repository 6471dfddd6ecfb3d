import RowQuery.Proofs.Grammar
import RowQuery.Query.Parser

/-! # Reading conditions by the grammar

A parser reads a level of the grammar (`Reads`) if on the tokens of every derivation at the level it
answers with the derived condition, or refuses it as nested too deeply exactly when it is, and if
whatever it accepts is derived. Joining operands keeps this property (`Reads.joined`), and so does
opening a level (`Reads.operandWith`), so the operands and conditions of the parser have it.
-/

namespace RowQuery.Grammar

open RowQuery.Parser

/-! ## Steps of a parser -/

section Steps

variable {α β : Type}

/-- A step that reads a value hands it to the next one. -/
theorem bind_of_ok {first : Parser α} {next : α → Parser β} {cursor cursor' : Cursor} {value : α}
    (read : first cursor = .ok value cursor') : (first >>= next) cursor = next value cursor' := by
  simp only [bind, EStateM.bind, read]

/-- A step that fails ends the reading. -/
theorem bind_of_error {first : Parser α} {next : α → Parser β} {cursor cursor' : Cursor}
    {cause : ParseError} (failed : first cursor = .error cause cursor') :
    (first >>= next) cursor = .error cause cursor' := by
  simp only [bind, EStateM.bind, failed]

/-- If two steps succeed one after the other, each does. -/
theorem ok_of_bind {first : Parser α} {next : α → Parser β} {cursor after : Cursor} {result : β}
    (read : (first >>= next) cursor = .ok result after) :
    ∃ value between, first cursor = .ok value between ∧ next value between = .ok result after := by
  cases found : first cursor with
  | ok value between => exact ⟨value, between, rfl, (bind_of_ok found).symm.trans read⟩
  | error cause between =>
      rw [bind_of_error found] at read
      cases read

/-- Returning a value leaves the cursor where it is. -/
@[simp] theorem pure_apply (value : α) (cursor : Cursor) :
    (pure value : Parser α) cursor = .ok value cursor := rfl

/-- Looking ahead gives the next token. -/
@[simp] theorem peek_bind (next : Option Token → Parser α) (cursor : Cursor) :
    (peek >>= next) cursor = next cursor.rest.head? cursor := rfl

/-- Advancing drops the next token. -/
@[simp] theorem advance_bind (next : Unit → Parser α) (cursor : Cursor) :
    (advance >>= next) cursor = next () ⟨cursor.rest.tail, cursor.openLevels⟩ := rfl

/-- The cursor can be read. -/
@[simp] theorem get_bind (next : Cursor → Parser α) (cursor : Cursor) :
    (get >>= next) cursor = next cursor cursor := rfl

/-- The cursor can be replaced. -/
@[simp] theorem set_bind (cursor other : Cursor) (next : PUnit → Parser α) :
    ((set other : Parser PUnit) >>= next) cursor = next ⟨⟩ other := rfl

end Steps

/-- Whether a result is the one due to a derivation: its condition and the tokens after it if the
derivation fits the limits, and otherwise a refusal as nested too deeply. -/
def Answers (result : EStateM.Result ParseError Cursor Condition) (fits : Prop)
    (condition : Condition) (after : Cursor) : Prop :=
  (fits ∧ result = .ok condition after) ∨
    (¬fits ∧ ∃ token cursor, result = .error (.nestingTooDeep token) cursor)

/-- Whether a parser reads a level of the grammar when a number of levels is open around it. -/
structure Reads (read : Parser Condition) (level : Level) (opened : Nat) : Prop where
  /-- On the tokens of a derivation it answers as is due. -/
  answers : ∀ (derivation : Derivation level) (after : List Token), level.Ends after →
    Answers (read ⟨derivation.tokens ++ after, opened⟩)
      (opened + derivation.openLevels ≤ maxNesting ∧ derivation.condition.height ≤ maxNesting)
      derivation.condition ⟨after, opened⟩
  /-- What it accepts is derived, up to where the derivation ends. -/
  derives : ∀ (tokens : List Token) (condition : Condition) (cursor : Cursor),
    read ⟨tokens, opened⟩ = .ok condition cursor →
      cursor.openLevels = opened ∧ level.Ends cursor.rest ∧
        ∃ derivation : Derivation level, tokens = derivation.tokens ++ cursor.rest ∧
          derivation.condition = condition

/-! ## Joined operands -/

private theorem height_join (junction : Junction) (left right : Condition) :
    (junction.join left right).height = max left.height right.height + 1 := by
  cases junction <;> rfl

/-- Joining further operands does not lower a condition. -/
theorem height_le_joinTo {junction : Junction} : ∀ (more : Further junction) (left : Condition),
    left.height ≤ (more.joinTo left).height
  | .none, _ => Nat.le_refl _
  | .next _ _ operand more, left => by
      have joined := height_le_joinTo more (junction.join left operand.condition)
      rw [height_join] at joined
      rw [Further.joinTo]
      omega

private theorem checkHeight_of_le {token : Token} {condition : Condition} {cursor : Cursor}
    (low : condition.height ≤ maxNesting) :
    checkHeight token condition cursor = .ok condition cursor := by
  rw [checkHeight, if_neg (Nat.not_lt.mpr low)]
  rfl

private theorem checkHeight_of_lt {token : Token} {condition : Condition} {cursor : Cursor}
    (high : maxNesting < condition.height) :
    checkHeight token condition cursor = .error (.nestingTooDeep token) cursor := by
  rw [checkHeight, if_pos high]
  rfl

variable {junction : Junction} {read : Parser Condition} {opened : Nat}

/-- Where further operands end, the loop that reads them stops. -/
theorem joinMore_of_ends {after : List Token} (stops : startsWith junction.keyword after = false)
    (bound : Nat) (left : Condition) :
    joinMore junction.keyword junction.join read bound left ⟨after, opened⟩ =
      .ok left ⟨after, opened⟩ := by
  cases bound with
  | zero => rfl
  | succ bound =>
      rw [joinMore, peek_bind]
      cases after with
      | nil => rfl
      | cons token after =>
          have other : token.isKeyword junction.keyword = false := stops
          simp only [List.head?_cons, other, Bool.false_eq_true, ↓reduceIte, pure_apply]

/-- At the keyword the loop reads an operand, checks the height and goes on. -/
theorem joinMore_of_keyword {keyword : Token} (joins : keyword.isKeyword junction.keyword = true)
    (bound : Nat) (left : Condition) (tokens : List Token) :
    joinMore junction.keyword junction.join read (bound + 1) left ⟨keyword :: tokens, opened⟩ =
      (do
        let right ← read
        let joined ← checkHeight keyword (junction.join left right)
        joinMore junction.keyword junction.join read bound joined) ⟨tokens, opened⟩ := by
  rw [joinMore, peek_bind]
  simp only [List.head?_cons, joins, ↓reduceIte, advance_bind, List.tail_cons]

private theorem Answers.of_iff {result : EStateM.Result ParseError Cursor Condition}
    {fits fits' : Prop}
    {condition : Condition} {after : Cursor} (answers : Answers result fits condition after)
    (same : fits ↔ fits') : Answers result fits' condition after := by
  unfold Answers at answers ⊢
  rwa [← same]

/-- What a reader accepts fits the limits. -/
theorem Reads.fits {level : Level} (reads : Reads read level opened) {derivation : Derivation level}
    {cursor after : Cursor} {condition : Condition} (ends : level.Ends cursor.rest)
    (accepted : read ⟨derivation.tokens ++ cursor.rest, opened⟩ = .ok condition after) :
    opened + derivation.openLevels ≤ maxNesting ∧ derivation.condition.height ≤ maxNesting := by
  obtain ⟨fits, -⟩ | ⟨-, token, stop, refused⟩ := reads.answers derivation cursor.rest ends
  · exact fits
  · rw [accepted] at refused
    cases refused

/-- **Further operands are read.** The bound of the loop is never met: every operand adds a level,
and the height reaches its limit first. -/
theorem joinMore_answers (reads : Reads read junction.operands opened)
    (room : opened ≤ maxNesting) : ∀ (more : Further junction) (bound : Nat) (left : Condition)
      (after : List Token), (Level.joined junction).Ends after → left.height ≤ maxNesting →
      maxNesting < bound + left.height →
      Answers
        (joinMore junction.keyword junction.join read bound left ⟨more.tokens ++ after, opened⟩)
        (opened + more.openLevels ≤ maxNesting ∧ (more.joinTo left).height ≤ maxNesting)
        (more.joinTo left) ⟨after, opened⟩
  | .none, bound, left, after, ends, low, _ =>
      .inl ⟨⟨room, low⟩, joinMore_of_ends ((ends_joined junction after).mp ends).1 bound left⟩
  | .next keyword joins operand more, 0, left, after, _, low, bounded => by omega
  | .next keyword joins operand more, bound + 1, left, after, ends, low, bounded => by
      simp only [Further.tokens, Further.openLevels, Further.joinTo, List.cons_append,
        List.append_assoc]
      rw [joinMore_of_keyword joins]
      have raised := height_join junction left operand.condition
      have kept := height_le_joinTo more (junction.join left operand.condition)
      obtain ⟨fits, accepted⟩ | ⟨large, token, stop, refused⟩ :=
        reads.answers operand (more.tokens ++ after) (operand_ends_before more ends)
      · -- The operand is read, and joining it may still make the condition too high.
        rw [bind_of_ok accepted]
        rcases Nat.lt_or_ge maxNesting (junction.join left operand.condition).height with
          high | fitting
        · rw [bind_of_error (checkHeight_of_lt high)]
          refine .inr ⟨fun fits' => ?_, keyword, _, rfl⟩
          omega
        · rw [bind_of_ok (checkHeight_of_le fitting)]
          refine (joinMore_answers reads room more bound _ after ends fitting (by omega)).of_iff ?_
          omega
      · rw [bind_of_error refused]
        refine .inr ⟨fun fits' => large ?_, token, stop, rfl⟩
        omega

/-- What the loop accepts is derived as further operands. -/
theorem joinMore_derives (reads : Reads read junction.operands opened) :
    ∀ (bound : Nat) (left : Condition) (tokens : List Token) (condition : Condition)
      (cursor : Cursor), junction.operands.Ends tokens → left.height ≤ maxNesting →
      maxNesting < bound + left.height →
      joinMore junction.keyword junction.join read bound left ⟨tokens, opened⟩ =
        .ok condition cursor →
      cursor.openLevels = opened ∧ (Level.joined junction).Ends cursor.rest ∧
        ∃ more : Further junction, tokens = more.tokens ++ cursor.rest ∧
          more.joinTo left = condition
  | 0, left, tokens, condition, cursor, _, low, bounded, _ => by omega
  | bound + 1, left, tokens, condition, cursor, ends, low, bounded, accepted => by
      cases starts : startsWith junction.keyword tokens with
      | false =>
          rw [joinMore_of_ends starts] at accepted
          cases accepted
          exact ⟨rfl, (ends_joined junction tokens).mpr ⟨starts, ends⟩, .none, rfl, rfl⟩
      | true =>
          obtain ⟨keyword, after, rfl, joins⟩ : ∃ keyword after, tokens = keyword :: after ∧
              keyword.isKeyword junction.keyword = true := by
            cases tokens with
            | nil => cases starts
            | cons keyword after => exact ⟨keyword, after, rfl, starts⟩
          rw [joinMore_of_keyword joins] at accepted
          obtain ⟨right, ⟨between, levels⟩, read', accepted⟩ := ok_of_bind accepted
          obtain ⟨balanced, endsHere, operand, rfl, rfl⟩ := reads.derives after right _ read'
          obtain rfl : opened = levels := balanced.symm
          rcases Nat.lt_or_ge maxNesting (junction.join left operand.condition).height with
            high | fitting
          · rw [bind_of_error (checkHeight_of_lt high)] at accepted
            cases accepted
          · rw [bind_of_ok (checkHeight_of_le fitting)] at accepted
            have raised := height_join junction left operand.condition
            obtain ⟨closed, stops, more, same, joined⟩ := joinMore_derives reads bound _ between
              condition cursor endsHere fitting (by omega) accepted
            refine ⟨closed, stops, .next keyword joins operand more, ?_, joined⟩
            simp only [Further.tokens, List.cons_append, List.append_assoc, ← same]

private theorem height_pos : ∀ condition : Condition, 0 < condition.height
  | .comparison _ _ _ => Nat.one_pos
  | .and _ _ => Nat.succ_pos _
  | .or _ _ => Nat.succ_pos _
  | .not _ => Nat.succ_pos _

/-- **Joining.** If a parser reads the operands, then joining what it reads reads the level of
joined operands. -/
theorem Reads.joined (junction : Junction) (reads : Reads read junction.operands opened)
    (room : opened ≤ maxNesting) :
    Reads (Parser.joined junction.keyword junction.join read) (.joined junction) opened where
  answers := by
    intro derivation after ends
    cases derivation with | joined first more =>
    simp only [Derivation.tokens, Derivation.condition, Derivation.openLevels, List.append_assoc]
    have kept := height_le_joinTo more first.condition
    obtain ⟨fits, accepted⟩ | ⟨large, token, stop, refused⟩ :=
      reads.answers first (more.tokens ++ after) (operand_ends_before more ends)
    · have positive := height_pos first.condition
      rw [Parser.joined, bind_of_ok accepted]
      refine (joinMore_answers reads room more _ _ after ends fits.2 (by omega)).of_iff ?_
      omega
    · rw [Parser.joined, bind_of_error refused]
      refine .inr ⟨fun fits' => large ?_, token, stop, rfl⟩
      omega
  derives := by
    intro tokens condition cursor accepted
    obtain ⟨first, between, read', accepted⟩ := ok_of_bind accepted
    obtain ⟨rfl, ends, derivation, rfl, rfl⟩ := reads.derives tokens first between read'
    have fits := reads.fits ends read'
    have positive := height_pos derivation.condition
    obtain ⟨closed, stops, more, same, joined⟩ := joinMore_derives reads _ _ between.rest condition
      cursor ends fits.2 (by omega) accepted
    refine ⟨closed, stops, .joined derivation more, ?_, joined⟩
    simp only [Derivation.tokens, List.append_assoc, ← same]

/-- **Disjunctions.** If a parser reads single operands, it reads disjunctions of conjunctions of
them. -/
theorem Reads.disjunction (reads : Reads read .operand opened) (room : opened ≤ maxNesting) :
    Reads (Parser.disjunction read) (.joined .or) opened := by
  have conjunctions : Reads (Parser.joined .and .and read) (.joined .and) opened :=
    Reads.joined .and reads room
  exact Reads.joined .or conjunctions room

/-! ## Operands -/

/-- A level deeper reads what the reader reads there, and the level is closed after it. -/
theorem nested_of_ok {token : Token} {tokens : List Token} {condition : Condition}
    {after : Cursor} (room : opened < maxNesting)
    (accepted : read ⟨tokens, opened + 1⟩ = .ok condition after) :
    nested token read ⟨tokens, opened⟩ = .ok condition ⟨after.rest, after.openLevels - 1⟩ := by
  simp only [nested, Nat.not_le.mpr room, ↓reduceIte, accepted]

/-- A level deeper fails as the reader does there, and the level is closed after it. -/
theorem nested_of_error {token : Token} {tokens : List Token} {cause : ParseError}
    {after : Cursor} (room : opened < maxNesting)
    (refused : read ⟨tokens, opened + 1⟩ = .error cause after) :
    nested token read ⟨tokens, opened⟩ = .error cause ⟨after.rest, after.openLevels - 1⟩ := by
  simp only [nested, Nat.not_le.mpr room, ↓reduceIte, refused]

/-- No level is opened beyond the deepest one. -/
theorem nested_of_full {token : Token} {tokens : List Token} (full : maxNesting ≤ opened) :
    nested token read ⟨tokens, opened⟩ = .error (.nestingTooDeep token) ⟨tokens, opened⟩ := by
  rw [nested, if_pos full]

/-- **Opening a level.** A parser that reads a level when one more is open reads it inside a
negation or parentheses; with no level left to open it refuses whatever it is given. -/
theorem nested_answers {level : Level} (token : Token)
    (reads : opened < maxNesting → Reads read level (opened + 1)) (derivation : Derivation level)
    (after : List Token) (ends : level.Ends after) :
    Answers (nested token read ⟨derivation.tokens ++ after, opened⟩)
      (opened + (derivation.openLevels + 1) ≤ maxNesting ∧
        derivation.condition.height ≤ maxNesting)
      derivation.condition ⟨after, opened⟩ := by
  rcases Nat.lt_or_ge opened maxNesting with room | full
  · obtain ⟨fits, accepted⟩ | ⟨large, refusal, stop, refused⟩ :=
      (reads room).answers derivation after ends
    · exact .inl ⟨by omega, nested_of_ok room accepted⟩
    · exact .inr ⟨by omega, refusal, _, nested_of_error room refused⟩
  · rw [nested_of_full full]
    exact .inr ⟨by omega, token, _, rfl⟩

/-- What is accepted inside an opened level is derived. -/
theorem nested_derives {level : Level} {token : Token}
    (reads : opened < maxNesting → Reads read level (opened + 1)) {tokens : List Token}
    {condition : Condition} {cursor : Cursor}
    (accepted : nested token read ⟨tokens, opened⟩ = .ok condition cursor) :
    cursor.openLevels = opened ∧ level.Ends cursor.rest ∧
      ∃ derivation : Derivation level, tokens = derivation.tokens ++ cursor.rest ∧
        derivation.condition = condition := by
  rcases Nat.lt_or_ge opened maxNesting with room | full
  · cases found : read ⟨tokens, opened + 1⟩ with
    | error cause stop =>
        rw [nested_of_error room found] at accepted
        cases accepted
    | ok value after =>
        rw [nested_of_ok room found] at accepted
        cases accepted
        obtain ⟨balanced, ends, derivation, same, derived⟩ :=
          (reads room).derives tokens condition after found
        exact ⟨by rw [balanced]; rfl, ends, derivation, same, derived⟩
  · rw [nested_of_full full] at accepted
    cases accepted

/-- The operator of a token is the one whose symbol it spells. -/
theorem Operator.ofToken?_eq_some_iff {token : Token} {operator : Operator} :
    Operator.ofToken? token = some operator ↔
      token.kind = .symbol ∧ token.text = operator.symbol := by
  have found : Operator.ofSymbol? operator.symbol = some operator := by cases operator <;> rfl
  unfold Operator.ofToken?
  constructor
  · intro stands
    split at stands
    · rename_i symbolic
      have spelled :=
        List.find?_some (p := fun other : Operator => other.symbol = token.text) stands
      exact ⟨symbolic, (of_decide_eq_true spelled).symm⟩
    · cases stands
  · rintro ⟨symbolic, spelled⟩
    rw [if_pos symbolic, spelled, found]

/-- A comparison is read from its three tokens. -/
theorem comparison_apply {column operatorToken literalToken : Token} {operator : Operator}
    {literal : Literal} (named : column.kind = .word)
    (compares : Operator.ofToken? operatorToken = some operator)
    (valued : Literal.ofToken? literalToken = some literal) (after : List Token) :
    comparison ⟨column :: operatorToken :: literalToken :: after, opened⟩ =
      .ok (.comparison column.text operator literal) ⟨after, opened⟩ := by
  simp only [comparison, get_bind, set_bind, named, ne_eq, not_true_eq_false, ↓reduceIte, compares,
    valued]
  rfl

section Refused

variable {column operatorToken literalToken : Token} {after : List Token}

/-- A comparison starts with the name of a column. -/
theorem comparison_of_unnamed (unnamed : column.kind ≠ .word) :
    comparison ⟨column :: operatorToken :: literalToken :: after, opened⟩ =
      .error (.unexpectedToken column) ⟨after, opened⟩ := by
  simp only [comparison, get_bind, set_bind, unnamed, ne_eq, not_false_eq_true, ↓reduceIte]
  rfl

/-- The second token of a comparison is an operator. -/
theorem comparison_of_unknown (named : column.kind = .word)
    (unknown : Operator.ofToken? operatorToken = none) :
    comparison ⟨column :: operatorToken :: literalToken :: after, opened⟩ =
      .error (.unknownOperator operatorToken) ⟨after, opened⟩ := by
  simp only [comparison, get_bind, set_bind, named, ne_eq, not_true_eq_false, ↓reduceIte, unknown]
  rfl

/-- The third token of a comparison is a literal. -/
theorem comparison_of_invalid {operator : Operator} (named : column.kind = .word)
    (compares : Operator.ofToken? operatorToken = some operator)
    (invalid : Literal.ofToken? literalToken = none) :
    comparison ⟨column :: operatorToken :: literalToken :: after, opened⟩ =
      .error (.invalidLiteral literalToken) ⟨after, opened⟩ := by
  simp only [comparison, get_bind, set_bind, named, ne_eq, not_true_eq_false, ↓reduceIte, compares,
    invalid]
  rfl

end Refused

/-- A comparison that is accepted was read from a word, an operator and a literal. -/
theorem comparison_eq_ok {tokens : List Token} {condition : Condition} {cursor : Cursor}
    (accepted : comparison ⟨tokens, opened⟩ = .ok condition cursor) :
    ∃ column operatorToken literalToken operator literal,
      tokens = column :: operatorToken :: literalToken :: cursor.rest ∧ cursor.openLevels = opened ∧
      column.kind = .word ∧ Operator.ofToken? operatorToken = some operator ∧
      Literal.ofToken? literalToken = some literal ∧
      condition = .comparison column.text operator literal := by
  match tokens, accepted with
  | [], accepted => cases accepted
  | [_], accepted => cases accepted
  | [_, _], accepted => cases accepted
  | column :: operatorToken :: literalToken :: rest, accepted =>
      by_cases named : column.kind = .word
      · cases compares : Operator.ofToken? operatorToken with
        | none =>
            rw [comparison_of_unknown named compares] at accepted
            cases accepted
        | some operator =>
            cases valued : Literal.ofToken? literalToken with
            | none =>
                rw [comparison_of_invalid named compares valued] at accepted
                cases accepted
            | some literal =>
                rw [comparison_apply named compares valued] at accepted
                cases accepted
                exact ⟨column, operatorToken, literalToken, operator, literal, rfl, rfl, named,
                  compares, valued, rfl⟩
      · rw [comparison_of_unnamed named] at accepted
        cases accepted

section Operand

variable {deeper : Token → Parser Condition} {token : Token}

private theorem operandWith_of_not (negates : token.isKeyword .not = true) (tokens : List Token) :
    operandWith deeper ⟨token :: tokens, opened⟩ =
      (do
        let inner ← nested token (deeper token)
        checkHeight token (.not inner)) ⟨tokens, opened⟩ := by
  rw [operandWith, peek_bind]
  simp only [List.head?_cons, negates, ↓reduceIte, advance_bind, List.tail_cons]

private theorem isKeyword_of_kind (other : token.kind ≠ .word) (keyword : Keyword) :
    token.isKeyword keyword = false := by
  simp only [Token.isKeyword, other, decide_false, Bool.false_and]

private theorem operandWith_of_leftParen (opens : token.kind = .leftParen) (tokens : List Token) :
    operandWith deeper ⟨token :: tokens, opened⟩ =
      (do
        let inner ← nested token (Parser.disjunction (deeper token))
        closeParen token
        pure inner) ⟨tokens, opened⟩ := by
  have plain := isKeyword_of_kind (show token.kind ≠ .word by rw [opens]; nofun) .not
  rw [operandWith, peek_bind]
  simp only [List.head?_cons, plain, Bool.false_eq_true, opens, ↓reduceIte, advance_bind,
    List.tail_cons]

private theorem operandWith_of_other (plain : token.isKeyword .not = false)
    (other : token.kind ≠ .leftParen) (tokens : List Token) :
    operandWith deeper ⟨token :: tokens, opened⟩ = comparison ⟨token :: tokens, opened⟩ := by
  rw [operandWith, peek_bind]
  simp only [List.head?_cons, plain, Bool.false_eq_true, other, ↓reduceIte]

private theorem closeParen_of_rightParen {closing : Token} (closes : closing.kind = .rightParen)
    (after : List Token) :
    closeParen token ⟨closing :: after, opened⟩ = .ok () ⟨after, opened⟩ := by
  rw [closeParen, peek_bind]
  simp only [List.head?_cons, closes, ↓reduceIte]
  rfl

/-- A parenthesis is closed by the next token and no other. -/
theorem closeParen_eq_ok {cursor after : Cursor} (closed : closeParen token cursor = .ok () after) :
    ∃ closing, closing.kind = .rightParen ∧ cursor.rest = closing :: after.rest ∧
      after.openLevels = cursor.openLevels := by
  obtain ⟨tokens, opened⟩ := cursor
  cases tokens with
  | nil => cases closed
  | cons closing rest =>
      by_cases closes : closing.kind = .rightParen
      · rw [closeParen_of_rightParen closes] at closed
        cases closed
        exact ⟨closing, closes, rfl, rfl⟩
      · rw [closeParen, peek_bind] at closed
        simp only [List.head?_cons, closes, ↓reduceIte] at closed
        cases closed

/-- On the tokens of a derived operand, a parser that reads operands one level deeper answers as is
due. -/
theorem operandWith_answers (room : opened ≤ maxNesting)
    (reads : opened < maxNesting → ∀ token, Reads (deeper token) .operand (opened + 1))
    (derivation : Derivation .operand) (after : List Token) :
    Answers (operandWith deeper ⟨derivation.tokens ++ after, opened⟩)
      (opened + derivation.openLevels ≤ maxNesting ∧ derivation.condition.height ≤ maxNesting)
      derivation.condition ⟨after, opened⟩ := by
  cases derivation with
  | comparison column operatorToken literalToken operator literal named free compares valued =>
      refine .inl ⟨⟨room, show 1 ≤ maxNesting by decide⟩, ?_⟩
      have other : column.kind ≠ .leftParen := by rw [named]; nofun
      exact (operandWith_of_other free other _).trans
        (comparison_apply named (Operator.ofToken?_eq_some_iff.mpr compares) valued after)
  | negation keyword negates inner =>
      simp only [Derivation.tokens, Derivation.condition, Derivation.openLevels, Condition.height,
        List.cons_append]
      rw [operandWith_of_not negates]
      obtain ⟨fits, accepted⟩ | ⟨large, refusal, stop, refused⟩ :=
        nested_answers keyword (fun room => reads room keyword) inner after trivial
      · rw [bind_of_ok accepted]
        rcases Nat.lt_or_ge maxNesting (Condition.not inner.condition).height with high | low
        · exact .inr ⟨fun fits' => Nat.not_lt.mpr fits'.2 high, keyword, _, checkHeight_of_lt high⟩
        · exact .inl ⟨⟨fits.1, low⟩, checkHeight_of_le low⟩
      · rw [bind_of_error refused]
        exact .inr ⟨fun fits' => large (by omega), refusal, stop, rfl⟩
  | group opening opens inner closing closes =>
      simp only [Derivation.tokens, Derivation.condition, Derivation.openLevels, List.cons_append,
        List.append_assoc, List.nil_append]
      rw [operandWith_of_leftParen opens]
      have deeperReads : opened < maxNesting →
          Reads (Parser.disjunction (deeper opening)) (.joined .or) (opened + 1) :=
        fun room => (reads room opening).disjunction room
      obtain ⟨fits, accepted⟩ | ⟨large, refusal, stop, refused⟩ :=
        nested_answers opening deeperReads inner (closing :: after) (ends_at_closing _ closes after)
      · rw [bind_of_ok accepted, bind_of_ok (closeParen_of_rightParen closes after)]
        exact .inl ⟨fits, rfl⟩
      · rw [bind_of_error refused]
        exact .inr ⟨large, refusal, stop, rfl⟩

/-- What such a parser accepts is a derived operand. -/
theorem operandWith_derives
    (reads : opened < maxNesting → ∀ token, Reads (deeper token) .operand (opened + 1))
    {tokens : List Token} {condition : Condition} {cursor : Cursor}
    (accepted : operandWith deeper ⟨tokens, opened⟩ = .ok condition cursor) :
    cursor.openLevels = opened ∧ ∃ derivation : Derivation .operand,
      tokens = derivation.tokens ++ cursor.rest ∧ derivation.condition = condition := by
  cases tokens with
  | nil => cases accepted
  | cons token tokens =>
      -- The first token alone tells a negation, a group and a comparison apart.
      cases negates : token.isKeyword .not with
      | true =>
          rw [operandWith_of_not negates] at accepted
          obtain ⟨inner, between, nestedRead, accepted⟩ := ok_of_bind accepted
          obtain ⟨balanced, -, derivation, rfl, rfl⟩ :=
            nested_derives (fun room => reads room token) nestedRead
          rcases Nat.lt_or_ge maxNesting (Condition.not derivation.condition).height with high | low
          · rw [checkHeight_of_lt high] at accepted
            cases accepted
          · rw [checkHeight_of_le low] at accepted
            cases accepted
            exact ⟨balanced, .negation token negates derivation, rfl, rfl⟩
      | false =>
          by_cases opens : token.kind = .leftParen
          · rw [operandWith_of_leftParen opens] at accepted
            obtain ⟨inner, between, nestedRead, accepted⟩ := ok_of_bind accepted
            obtain ⟨⟨⟩, last, closed, accepted⟩ := ok_of_bind accepted
            cases accepted
            obtain ⟨balanced, -, derivation, rfl, rfl⟩ :=
              nested_derives (fun room => (reads room token).disjunction room) nestedRead
            obtain ⟨closing, closes, remaining, level⟩ := closeParen_eq_ok closed
            refine ⟨level.trans balanced, .group token opens derivation closing closes, ?_, rfl⟩
            simp only [Derivation.tokens, remaining, List.cons_append, List.append_assoc,
              List.nil_append]
          · rw [operandWith_of_other negates opens] at accepted
            obtain ⟨column, operatorToken, literalToken, operator, literal, same, balanced, named,
              compares, valued, rfl⟩ := comparison_eq_ok accepted
            cases List.head_eq_of_cons_eq same
            exact ⟨balanced, .comparison token operatorToken literalToken operator literal named
              negates (Operator.ofToken?_eq_some_iff.mp compares) valued, same, rfl⟩

/-- **One level more.** A parser that reads operands one level deeper makes one that reads them at
this level. -/
theorem Reads.operandWith (room : opened ≤ maxNesting)
    (reads : opened < maxNesting → ∀ token, Reads (deeper token) .operand (opened + 1)) :
    Reads (Parser.operandWith deeper) .operand opened where
  answers derivation after _ := operandWith_answers room reads derivation after
  derives tokens condition cursor accepted := by
    obtain ⟨balanced, derivation, same, derived⟩ := operandWith_derives reads accepted
    exact ⟨balanced, trivial, derivation, same, derived⟩

end Operand

/-- **Operands are read.** The levels an operand may still open and the levels open around it make
up the limit. -/
theorem operand_reads : ∀ (levels opened : Nat), levels + opened = maxNesting →
    Reads (operand levels) .operand opened
  | 0, opened, total =>
      Reads.operandWith (by omega) fun room => absurd total (by omega)
  | levels + 1, opened, total =>
      Reads.operandWith (by omega) fun _ _ => operand_reads levels (opened + 1) (by omega)

/-- **Conditions are read.** Before anything is open, all levels may be opened. -/
theorem condition_reads : Reads condition (.joined .or) 0 := by
  have reads := (operand_reads maxNesting 0 rfl).disjunction (Nat.zero_le _)
  exact ⟨reads.answers, reads.derives⟩

end RowQuery.Grammar
