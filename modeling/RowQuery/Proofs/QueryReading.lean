import RowQuery.Proofs.ConditionReading

/-! # Reading queries by the grammar

The parser of queries answers the tokens of a derivation with the derived query, unless the
condition is nested too deeply (`query_answers`), and accepts nothing else (`query_derives`).
Together with the grammar having one derivation at most, this makes the parser decide the grammar
within its two limits (`Query.ofTokens_decides_grammar`).
-/

namespace RowQuery

namespace Grammar

open RowQuery.Parser

variable {keyword : Keyword} {token : Token} {tokens : List Token} {cursor : Cursor}
  {opened : Nat}

private theorem expectKeyword_of_isKeyword (marked : token.isKeyword keyword = true)
    (after : List Token) :
    expectKeyword keyword ⟨token :: after, opened⟩ = .ok () ⟨after, opened⟩ := by
  rw [expectKeyword, peek_bind]
  simp only [List.head?_cons, marked, ↓reduceIte]
  rfl

/-- A keyword is read from the next token and no other. -/
theorem expectKeyword_eq_ok (accepted : expectKeyword keyword ⟨tokens, opened⟩ = .ok () cursor) :
    ∃ token, token.isKeyword keyword = true ∧ tokens = token :: cursor.rest ∧
      cursor.openLevels = opened := by
  cases tokens with
  | nil => cases accepted
  | cons token after =>
      cases marked : token.isKeyword keyword with
      | true =>
          rw [expectKeyword_of_isKeyword marked] at accepted
          cases accepted
          exact ⟨token, marked, rfl, rfl⟩
      | false =>
          rw [expectKeyword, peek_bind] at accepted
          simp only [List.head?_cons, marked, Bool.false_eq_true, ↓reduceIte] at accepted
          cases accepted

/-- A name that a column list may hold. -/
theorem isColumnName_iff : isColumnName token = true ↔
    token.kind = .word ∧ token.text ≠ "*" ∧ token.isKeyword .from = false := by
  simp only [isColumnName, ne_eq, decide_not, Bool.and_eq_true, decide_eq_true_eq,
    Bool.not_eq_true', decide_eq_false_iff_not, and_assoc]

section ColumnList

variable {names rest : List Token} (allowed : ∀ name ∈ names, isColumnName name = true)

include allowed

private theorem split_columnNames (ended : ∀ token ∈ rest.head?, isColumnName token = false) :
    (names ++ rest).takeWhile isColumnName = names ∧
      (names ++ rest).dropWhile isColumnName = rest := by
  have stops : rest.takeWhile isColumnName = [] ∧ rest.dropWhile isColumnName = rest := by
    cases rest with
    | nil => exact ⟨rfl, rfl⟩
    | cons token rest =>
        have other : ¬isColumnName token = true := Bool.eq_false_iff.mp (ended token rfl)
        exact ⟨List.takeWhile_cons_of_neg other, List.dropWhile_cons_of_neg other⟩
  rw [List.takeWhile_append_of_pos allowed, List.dropWhile_append_of_pos allowed, stops.1, stops.2,
    List.append_nil]
  exact ⟨rfl, rfl⟩

/-- Up to `FROM` or the end of the tokens there must be a name. -/
theorem columnList_of_from (originates : ∀ token ∈ rest.head?, token.isKeyword .from = true) :
    columnList ⟨names ++ rest, opened⟩ =
      (if names = [] then throw .emptySelection
        else pure (.columns (names.map (·.text))) : Parser Selection) ⟨rest, opened⟩ := by
  have ended : ∀ token ∈ rest.head?, isColumnName token = false := by
    intro next first
    simp only [isColumnName, originates next first, Bool.not_true, Bool.and_false]
  obtain ⟨taken, left⟩ := split_columnNames allowed ended
  rw [columnList, get_bind, set_bind]
  cases rest with
  | nil =>
      simp only [taken, left, List.head?_nil]
      cases names <;> rfl
  | cons token rest =>
      simp only [taken, left, List.head?_cons, originates token rfl, Bool.not_true,
        Bool.false_eq_true, ↓reduceIte]
      cases names <;> rfl

/-- A token that is neither a name nor `FROM` is refused. -/
theorem columnList_of_other (unnamed : isColumnName token = false)
    (other : token.isKeyword .from = false) (after : List Token) :
    columnList ⟨names ++ token :: after, opened⟩ =
      .error (.invalidSelection token) ⟨token :: after, opened⟩ := by
  have ended : ∀ next ∈ (token :: after).head?, isColumnName next = false := by
    rintro next ⟨⟩
    exact unnamed
  obtain ⟨taken, left⟩ := split_columnNames allowed ended
  rw [columnList, get_bind, set_bind]
  simp only [taken, left, List.head?_cons, other, Bool.not_false, ↓reduceIte]
  rfl

end ColumnList

/-- A column list is read up to the first token that it may not hold. -/
theorem columnList_answers {names : List Token} (nonempty : names ≠ [])
    (allowed : ∀ name ∈ names, isColumnName name = true)
    (originates : token.isKeyword .from = true) (after : List Token) :
    columnList ⟨names ++ token :: after, opened⟩ =
      .ok (.columns (names.map (·.text))) ⟨token :: after, opened⟩ := by
  have next : ∀ found ∈ (token :: after).head?, found.isKeyword .from = true := by
    rintro found ⟨⟩
    exact originates
  rw [columnList_of_from allowed next, if_neg nonempty, pure_apply]

/-- A derived selection before `FROM` is read. -/
theorem selection_answers (derivation : SelectionDerivation)
    (originates : token.isKeyword .from = true) (after : List Token) :
    selection ⟨derivation.tokens ++ token :: after, opened⟩ =
      .ok derivation.selection ⟨token :: after, opened⟩ := by
  cases derivation with
  | all star whole =>
      simp only [SelectionDerivation.tokens, List.cons_append, List.nil_append, selection,
        peek_bind, List.head?_cons, whole, ↓reduceIte, advance_bind, List.tail_cons, originates,
        Bool.not_true, Bool.and_false, Bool.false_and, Bool.false_eq_true]
      rfl
  | columns names nonempty allowed =>
      obtain ⟨first, names, rfl⟩ := List.exists_cons_of_ne_nil nonempty
      have plain : first.isWord "*" = false := by
        simp [Token.isWord, (allowed first List.mem_cons_self).2.1]
      simp only [SelectionDerivation.tokens, SelectionDerivation.selection, List.cons_append,
        selection, peek_bind, List.head?_cons, plain, Bool.false_eq_true, ↓reduceIte]
      exact columnList_answers nonempty
        (fun name member => isColumnName_iff.mpr (allowed name member))
        originates after

/-- An accepted column list is the longest run of names, which is not empty. -/
theorem columnList_eq_ok {result : Selection}
    (accepted : columnList ⟨tokens, opened⟩ = .ok result cursor) :
    tokens.takeWhile isColumnName ≠ [] ∧ cursor = ⟨tokens.dropWhile isColumnName, opened⟩ ∧
      result = .columns ((tokens.takeWhile isColumnName).map (·.text)) := by
  rw [columnList, get_bind, set_bind] at accepted
  cases left : tokens.dropWhile isColumnName with
  | nil =>
      cases taken : tokens.takeWhile isColumnName with
      | nil =>
          simp only [left, taken, List.head?_nil] at accepted
          cases accepted
      | cons first names =>
          simp only [left, taken, List.head?_nil] at accepted
          cases accepted
          exact ⟨List.cons_ne_nil _ _, rfl, rfl⟩
  | cons token after =>
      cases originates : token.isKeyword .from with
      | false =>
          simp only [left, List.head?_cons, originates, Bool.not_false, ↓reduceIte] at accepted
          cases accepted
      | true =>
          cases taken : tokens.takeWhile isColumnName with
          | nil =>
              simp only [left, taken, List.head?_cons, originates, Bool.not_true,
                Bool.false_eq_true, ↓reduceIte] at accepted
              cases accepted
          | cons first names =>
              simp only [left, taken, List.head?_cons, originates, Bool.not_true,
                Bool.false_eq_true, ↓reduceIte] at accepted
              cases accepted
              exact ⟨List.cons_ne_nil _ _, rfl, rfl⟩

/-- What is accepted as a selection is derived. -/
theorem selection_derives {result : Selection}
    (accepted : selection ⟨tokens, opened⟩ = .ok result cursor) :
    cursor.openLevels = opened ∧ ∃ derivation : SelectionDerivation,
      tokens = derivation.tokens ++ cursor.rest ∧ derivation.selection = result := by
  cases tokens with
  | nil => cases accepted
  | cons first tokens =>
      rw [selection, peek_bind] at accepted
      cases whole : first.isWord "*" with
      | true =>
          simp only [List.head?_cons, whole, ↓reduceIte, advance_bind, peek_bind, List.tail_cons]
            at accepted
          obtain ⟨rfl, rfl⟩ : result = .all ∧ cursor = ⟨tokens, opened⟩ := by
            cases tokens with
            | nil =>
                cases accepted
                exact ⟨rfl, rfl⟩
            | cons next rest =>
                simp only [List.head?_cons] at accepted
                by_cases word : (next.kind = .word && !next.isKeyword .from &&
                    !next.isKeyword .where) = true
                · rw [if_pos word] at accepted
                  cases accepted
                · rw [if_neg word] at accepted
                  cases accepted
                  exact ⟨rfl, rfl⟩
          exact ⟨rfl, .all first whole, rfl, rfl⟩
      | false =>
          simp only [List.head?_cons, whole, Bool.false_eq_true, ↓reduceIte] at accepted
          obtain ⟨nonempty, rfl, rfl⟩ := columnList_eq_ok accepted
          have allowed : ∀ name ∈ (first :: tokens).takeWhile isColumnName,
              name.kind = .word ∧ name.text ≠ "*" ∧ name.isKeyword .from = false :=
            fun name member =>
              isColumnName_iff.mp (List.all_eq_true.mp List.all_takeWhile name member)
          exact ⟨rfl, .columns _ nonempty allowed, List.takeWhile_append_dropWhile.symm, rfl⟩

/-- The word `$` is read as the source of the rows. -/
theorem source_of_isWord (given : token.isWord "$" = true) (after : List Token) :
    source ⟨token :: after, opened⟩ = .ok () ⟨after, opened⟩ := by
  rw [source, peek_bind]
  simp only [List.head?_cons, advance_bind, given, ↓reduceIte]
  rfl

/-- The source of the rows is read from the next token and no other. -/
theorem source_eq_ok (accepted : source ⟨tokens, opened⟩ = .ok () cursor) :
    ∃ token, token.isWord "$" = true ∧ tokens = token :: cursor.rest ∧
      cursor.openLevels = opened := by
  cases tokens with
  | nil => cases accepted
  | cons token after =>
      cases given : token.isWord "$" with
      | true =>
          rw [source_of_isWord given] at accepted
          cases accepted
          exact ⟨token, given, rfl, rfl⟩
      | false =>
          rw [source, peek_bind] at accepted
          simp only [List.head?_cons, advance_bind, given, Bool.false_eq_true, ↓reduceIte]
            at accepted
          cases accepted

private theorem tokens_ne_nil {level : Level} : ∀ derivation :
    Derivation level, derivation.tokens ≠ []
  | .comparison _ _ _ _ _ _ _ _ _ => List.cons_ne_nil _ _
  | .negation _ _ _ => List.cons_ne_nil _ _
  | .group _ _ _ _ _ => List.cons_ne_nil _ _
  | .joined first _ => List.append_ne_nil_of_left_ne_nil (tokens_ne_nil first) _

/-- At `WHERE` with something after it, a condition is read. -/
theorem whereClause_of_isKeyword (restricts : token.isKeyword .where = true)
    (nonempty : tokens ≠ []) :
    whereClause ⟨token :: tokens, opened⟩ =
      (do return some (← condition)) ⟨tokens, opened⟩ := by
  obtain ⟨first, rest, rfl⟩ := List.exists_cons_of_ne_nil nonempty
  simp only [whereClause, peek_bind, List.head?_cons, restricts, ↓reduceIte, advance_bind,
    List.tail_cons]

/-- The derived condition after `WHERE` is read or refused as nested too deeply, as is due. -/
theorem whereClause_answers (restriction : Restriction) :
    (restriction.condition.openLevels ≤ maxNesting ∧
        restriction.condition.condition.height ≤ maxNesting ∧
      whereClause ⟨restriction.keyword :: restriction.condition.tokens, 0⟩ =
        .ok (some restriction.condition.condition) ⟨[], 0⟩) ∨
    (¬(restriction.condition.openLevels ≤ maxNesting ∧
        restriction.condition.condition.height ≤ maxNesting) ∧
      ∃ token cursor, whereClause ⟨restriction.keyword :: restriction.condition.tokens, 0⟩ =
        .error (.nestingTooDeep token) cursor) := by
  rw [whereClause_of_isKeyword restriction.restricts (tokens_ne_nil restriction.condition)]
  have answers := condition_reads.answers restriction.condition [] (ends_at_end _)
  rw [List.append_nil, Nat.zero_add] at answers
  obtain ⟨fits, accepted⟩ | ⟨large, token, stop, refused⟩ := answers
  · exact .inl ⟨fits.1, fits.2, bind_of_ok accepted⟩
  · exact .inr ⟨large, token, stop, bind_of_error refused⟩

/-- What is accepted after the source is nothing, or `WHERE` and a derived condition. -/
theorem whereClause_derives {result : Option Condition}
    (accepted : whereClause ⟨tokens, 0⟩ = .ok result cursor) :
    cursor.openLevels = 0 ∧ ∃ restriction : Option Restriction,
      tokens = QueryDerivation.restrictionTokens restriction ++ cursor.rest ∧
        restriction.map (fun restriction => restriction.condition.condition) = result := by
  cases tokens with
  | nil =>
      cases accepted
      exact ⟨rfl, none, rfl, rfl⟩
  | cons keyword tokens =>
      cases restricts : keyword.isKeyword .where with
      | false =>
          simp only [whereClause, peek_bind, List.head?_cons, restricts, Bool.false_eq_true,
            ↓reduceIte, pure_apply] at accepted
          cases accepted
          exact ⟨rfl, none, rfl, rfl⟩
      | true =>
          cases tokens with
          | nil =>
              simp only [whereClause, peek_bind, List.head?_cons, restricts, ↓reduceIte,
                advance_bind, List.tail_cons, List.head?_nil] at accepted
              cases accepted
          | cons first rest =>
              rw [whereClause_of_isKeyword restricts (List.cons_ne_nil _ _)] at accepted
              obtain ⟨inner, between, read', accepted⟩ := ok_of_bind accepted
              cases accepted
              obtain ⟨balanced, -, derivation, same, rfl⟩ :=
                condition_reads.derives _ inner cursor read'
              refine ⟨balanced, some ⟨keyword, restricts, derivation⟩, ?_, rfl⟩
              rw [same]
              rfl

/-- Reading ends only where there are no more tokens. -/
theorem finish_eq_ok {after : Cursor} (accepted : finish cursor = .ok () after) :
    cursor.rest = [] := by
  obtain ⟨tokens, opened⟩ := cursor
  cases tokens with
  | nil => rfl
  | cons token rest => cases accepted

/-- Up to the condition, the tokens of a derived query are read. -/
theorem query_eq_whereClause (derivation : QueryDerivation) :
    Parser.query ⟨derivation.tokens, 0⟩ =
      (do
        let condition ← whereClause
        finish
        return (⟨derivation.selection.selection, condition⟩ : Query))
        ⟨QueryDerivation.restrictionTokens derivation.restriction, 0⟩ := by
  rw [Parser.query, QueryDerivation.tokens,
    bind_of_ok (expectKeyword_of_isKeyword derivation.selects _),
    bind_of_ok (selection_answers derivation.selection derivation.originates _),
    bind_of_ok (expectKeyword_of_isKeyword derivation.originates _),
    bind_of_ok (source_of_isWord derivation.given _)]

/-- **Derived queries are read.** The answer to the tokens of a derivation is its query if both
limits are kept, and otherwise a refusal as nested too deeply. -/
theorem query_answers (derivation : QueryDerivation) :
    (derivation.openLevels ≤ maxNesting ∧ derivation.height ≤ maxNesting ∧
      Query.ofTokens derivation.tokens = .ok derivation.query) ∨
    (¬(derivation.openLevels ≤ maxNesting ∧ derivation.height ≤ maxNesting) ∧
      ∃ token, Query.ofTokens derivation.tokens = .error (.nestingTooDeep token)) := by
  unfold Query.ofTokens
  rw [query_eq_whereClause]
  obtain ⟨select, selects, selection, origin, originates, source, given, restriction⟩ := derivation
  cases restriction with
  | none => exact .inl ⟨Nat.zero_le _, Nat.zero_le _, rfl⟩
  | some restriction =>
      obtain ⟨open', low, accepted⟩ | ⟨large, token, stop, refused⟩ :=
        whereClause_answers restriction
      · refine .inl ⟨open', low, ?_⟩
        simp only [QueryDerivation.restrictionTokens, bind_of_ok accepted]
        rfl
      · refine .inr ⟨large, token, ?_⟩
        simp only [QueryDerivation.restrictionTokens, bind_of_error refused]

/-- **Accepted queries are derived.** -/
theorem query_derives {query : Query} (accepted : Query.ofTokens tokens = .ok query) :
    ∃ derivation : QueryDerivation, derivation.tokens = tokens ∧ derivation.query = query := by
  unfold Query.ofTokens at accepted
  cases read : Parser.query ⟨tokens, 0⟩ with
  | error cause stop =>
      rw [read] at accepted
      cases accepted
  | ok result last =>
      rw [read] at accepted
      cases accepted
      obtain ⟨⟨⟩, _, selected, read⟩ := ok_of_bind read
      obtain ⟨chosen, _, listed, read⟩ := ok_of_bind read
      obtain ⟨⟨⟩, _, originated, read⟩ := ok_of_bind read
      obtain ⟨⟨⟩, ⟨remaining, level⟩, sourced, read⟩ := ok_of_bind read
      obtain ⟨condition, _, restricted, read⟩ := ok_of_bind read
      obtain ⟨⟨⟩, _, finished, read⟩ := ok_of_bind read
      cases read
      obtain ⟨select, selects, rfl, levelSelect⟩ := expectKeyword_eq_ok selected
      obtain ⟨levelList, selection, list, rfl⟩ := selection_derives listed
      obtain ⟨origin, originates, fromHere, levelOrigin⟩ := expectKeyword_eq_ok originated
      obtain ⟨source, given, sourceHere, levelSource⟩ := source_eq_ok sourced
      -- No level is open between the clauses, which is where the condition starts.
      obtain rfl : level = 0 := by
        rw [show level = _ from levelSource, levelOrigin, levelList, levelSelect]
      obtain ⟨-, restriction, whereHere, rfl⟩ := whereClause_derives restricted
      refine ⟨⟨select, selects, selection, origin, originates, source, given, restriction⟩, ?_, rfl⟩
      rw [list, fromHere, sourceHere, whereHere, finish_eq_ok finished, List.append_nil]
      rfl

end Grammar

open Grammar

/-- **The parser decides the grammar.** A list of tokens has one derivation at most. If it has one,
the answer is the derived query, as long as no more than 256 negations and parentheses are open at
once and the condition is no more than 256 levels high, and otherwise a refusal as nested too
deeply. A list without a derivation is refused. -/
theorem Query.ofTokens_decides_grammar (tokens : List Token) :
    (∀ one other : QueryDerivation, one.tokens = tokens → other.tokens = tokens → one = other) ∧
    (∀ derivation : QueryDerivation, derivation.tokens = tokens →
      (derivation.openLevels ≤ 256 ∧ derivation.height ≤ 256 →
        Query.ofTokens tokens = .ok derivation.query) ∧
      (¬(derivation.openLevels ≤ 256 ∧ derivation.height ≤ 256) →
        ∃ token, Query.ofTokens tokens = .error (.nestingTooDeep token))) ∧
    ((¬∃ derivation : QueryDerivation, derivation.tokens = tokens) →
      ∃ cause, Query.ofTokens tokens = .error cause) := by
  refine ⟨?_, ?_, ?_⟩
  · intro one other same same'
    exact one.unambiguous other (same.trans same'.symm)
  · rintro derivation rfl
    obtain ⟨shallow, low, accepted⟩ | ⟨large, refused⟩ := query_answers derivation
    · exact ⟨fun _ => accepted, fun large => absurd ⟨shallow, low⟩ large⟩
    · exact ⟨fun fits => absurd fits large, fun _ => refused⟩
  · intro underived
    cases answer : Query.ofTokens tokens with
    | error cause => exact ⟨cause, rfl⟩
    | ok query =>
        obtain ⟨derivation, same, -⟩ := query_derives answer
        exact absurd ⟨derivation, same⟩ underived

namespace Demo

/-- A column that is named like a keyword, compared with a number after a count of negations. -/
def negations : Nat → Derivation .operand
  | 0 =>
    .comparison ⟨.word, "or", 0⟩ ⟨.symbol, ">=", 0⟩ ⟨.word, "7", 0⟩ .greaterOrEqual (.integer 7)
      rfl (by decide) ⟨rfl, rfl⟩ (by decide)
  | count + 1 => .negation ⟨.word, "Not", 0⟩ (by decide) (negations count)

private theorem openLevels_negations : ∀ count, (negations count).openLevels = count
  | 0 => rfl
  | count + 1 => congrArg (· + 1) (openLevels_negations count)

private theorem height_negations : ∀ count, (negations count).condition.height = count + 1
  | 0 => rfl
  | count + 1 => congrArg (· + 1) (height_negations count)

/-- A query for the rows that fail a condition as often as it is negated. -/
def negatedQuery (count : Nat) : QueryDerivation where
  select := ⟨.word, "SELECT", 0⟩
  selects := by decide
  selection := .all ⟨.word, "*", 0⟩ (by decide)
  origin := ⟨.word, "from", 0⟩
  originates := by decide
  source := ⟨.word, "$", 0⟩
  given := by decide
  restriction :=
    some ⟨⟨.word, "Where", 0⟩, by decide, .joined (.joined (negations count) .none) .none⟩

private theorem openLevels_negatedQuery (count : Nat) :
    (negatedQuery count).openLevels = count := by
  change max (max (negations count).openLevels 0) 0 = count
  rw [openLevels_negations, Nat.max_zero, Nat.max_zero]

private theorem height_negatedQuery (count : Nat) : (negatedQuery count).height = count + 1 :=
  height_negations count

end Demo

/-- Condition height runs out before open levels do: 255 negations are read and 256 are refused. -/
theorem Query.ofTokens_decides_grammar_negations :
    Query.ofTokens (Demo.negatedQuery 255).tokens = .ok (Demo.negatedQuery 255).query ∧
    (∃ token, Query.ofTokens (Demo.negatedQuery 256).tokens = .error (.nestingTooDeep token)) ∧
    ∃ cause, Query.ofTokens [] = .error cause := by
  refine ⟨?_, ?_, ?_⟩
  · refine ((Query.ofTokens_decides_grammar _).2.1 (Demo.negatedQuery 255) rfl).1 ?_
    rw [Demo.openLevels_negatedQuery, Demo.height_negatedQuery]
    decide
  · refine ((Query.ofTokens_decides_grammar _).2.1 (Demo.negatedQuery 256) rfl).2 ?_
    rw [Demo.openLevels_negatedQuery, Demo.height_negatedQuery]
    decide
  · refine (Query.ofTokens_decides_grammar []).2.2 ?_
    rintro ⟨derivation, empty⟩
    cases empty

end RowQuery
