import RowQuery.Query
import RowQuery.Token

/-! # The grammar of queries

A query is `SELECT`, a selection, `FROM`, the source `$` and possibly `WHERE` with a condition. A
condition is a disjunction of conjunctions of operands, each joined from the left; an operand is a
negated operand, a disjunction in parentheses or a comparison. Derivations are the syntax trees of
this grammar: they hold the tokens they are made of, and give the query and the number of negations
and parentheses open at once. No list of tokens has two derivations
(`QueryDerivation.unambiguous`).
-/

namespace RowQuery.Grammar

/-- The two ways to join operands. -/
inductive Junction where
  | and
  | or
  deriving DecidableEq

/-- The levels of precedence: single operands, and operands joined in one of the two ways. -/
inductive Level where
  | operand
  | joined (junction : Junction)
  deriving DecidableEq

namespace Junction

/-- The keyword between operands that are joined. -/
def keyword : Junction → Keyword
  | .and => .and
  | .or => .or

/-- The condition of two operands that are joined. -/
def join : Junction → Condition → Condition → Condition
  | .and => .and
  | .or => .or

/-- The level of the operands that are joined: conjunctions join single operands, and disjunctions
join conjunctions. -/
def operands : Junction → Level
  | .and => .operand
  | .or => .joined .and

end Junction

mutual

/-- The derivations of conditions at a level of precedence. -/
inductive Derivation : Level → Type where
  /-- A column, an operator and a literal; the column is no `NOT`. -/
  | comparison (column operatorToken literalToken : Token) (operator : Operator)
      (literal : Literal) (named : column.kind = .word) (free : column.isKeyword .not = false)
      (compares : operatorToken.kind = .symbol ∧ operatorToken.text = operator.symbol)
      (valued : Literal.ofToken? literalToken = some literal) : Derivation .operand
  /-- `NOT` and an operand. -/
  | negation (keyword : Token) (negates : keyword.isKeyword .not = true)
      (inner : Derivation .operand) : Derivation .operand
  /-- A disjunction in parentheses. -/
  | group (opening : Token) (opens : opening.kind = .leftParen)
      (inner : Derivation (.joined .or)) (closing : Token) (closes : closing.kind = .rightParen) :
      Derivation .operand
  /-- An operand and further ones joined to it. -/
  | joined {junction : Junction} (first : Derivation junction.operands)
      (more : Further junction) : Derivation (.joined junction)

/-- The derivations of further operands, each after the keyword that joins it. -/
inductive Further : Junction → Type where
  /-- No further operand. -/
  | none {junction : Junction} : Further junction
  /-- A keyword, an operand and further ones. -/
  | next {junction : Junction} (keyword : Token)
      (joins : keyword.isKeyword junction.keyword = true) (operand : Derivation junction.operands)
      (more : Further junction) : Further junction

end

/-! ## Tokens, conditions and open levels -/

mutual

/-- The tokens of a derivation, in order. -/
def Derivation.tokens {level : Level} : Derivation level → List Token
  | .comparison column operatorToken literalToken _ _ _ _ _ _ =>
    [column, operatorToken, literalToken]
  | .negation keyword _ inner => keyword :: inner.tokens
  | .group opening _ inner closing _ => opening :: (inner.tokens ++ [closing])
  | .joined first more => first.tokens ++ more.tokens

/-- The tokens of further operands and of the keywords before them, in order. -/
def Further.tokens {junction : Junction} : Further junction → List Token
  | .none => []
  | .next keyword _ operand more => keyword :: (operand.tokens ++ more.tokens)

end

mutual

/-- The condition that is derived. -/
def Derivation.condition {level : Level} : Derivation level → Condition
  | .comparison column _ _ operator literal _ _ _ _ => .comparison column.text operator literal
  | .negation _ _ inner => .not inner.condition
  | .group _ _ inner _ _ => inner.condition
  | .joined first more => more.joinTo first.condition

/-- What stands on the left, joined with the further operands one after the other. -/
def Further.joinTo {junction : Junction} : Further junction → Condition → Condition
  | .none, left => left
  | .next _ _ operand more, left => more.joinTo (junction.join left operand.condition)

end

mutual

/-- The greatest number of negations and parentheses that are open at once. -/
def Derivation.openLevels {level : Level} : Derivation level → Nat
  | .comparison _ _ _ _ _ _ _ _ _ => 0
  | .negation _ _ inner => inner.openLevels + 1
  | .group _ _ inner _ _ => inner.openLevels + 1
  | .joined first more => max first.openLevels more.openLevels

/-- The greatest number of negations and parentheses that are open at once in further operands. -/
def Further.openLevels {junction : Junction} : Further junction → Nat
  | .none => 0
  | .next _ _ operand more => max operand.openLevels more.openLevels

end

/-! ## Where a derivation ends -/

/-- Whether some tokens start with a keyword. -/
def startsWith (keyword : Keyword) (tokens : List Token) : Bool :=
  tokens.head?.any fun token => token.isKeyword keyword

/-- Whether a derivation at a level cannot go on with the tokens after it, since they start with
none of the keywords that join at the level. -/
def Level.Ends : Level → List Token → Prop
  | .operand, _ => True
  | .joined .and, after => startsWith .and after = false
  | .joined .or, after => startsWith .or after = false ∧ startsWith .and after = false

/-- Joined operands end where neither the keyword nor the last operand goes on. -/
theorem ends_joined (junction : Junction) (after : List Token) :
    (Level.joined junction).Ends after ↔
      startsWith junction.keyword after = false ∧ junction.operands.Ends after := by
  cases junction with
  | and => simp only [Level.Ends, Junction.keyword, Junction.operands, and_true]
  | or => rfl

/-- Only a bare word is a keyword. -/
theorem kind_of_isKeyword {token : Token} {keyword : Keyword}
    (marked : token.isKeyword keyword = true) : token.kind = .word := by
  unfold Token.isKeyword at marked
  exact of_decide_eq_true (Bool.and_eq_true_iff.mp marked).1

/-- Keywords are told apart by their letters in any case. -/
theorem keyword_eq_of_lower {keyword other : Keyword}
    (same : keyword.text.toList.map Char.toLower = other.text.toList.map Char.toLower) :
    keyword = other := by
  cases keyword <;> cases other <;> first | rfl | exact absurd same (by decide)

/-- A token is no two keywords at once. -/
theorem isKeyword_unique {token : Token} {keyword other : Keyword}
    (first : token.isKeyword keyword = true) (second : token.isKeyword other = true) :
    keyword = other := by
  unfold Token.isKeyword Text.sameIgnoringCase at first second
  have spelled := of_decide_eq_true (Bool.and_eq_true_iff.mp first).2
  have spelledToo := of_decide_eq_true (Bool.and_eq_true_iff.mp second).2
  exact keyword_eq_of_lower (spelled.symm.trans spelledToo)

/-- Before the keyword that joins them, operands end. -/
theorem operands_end_at_keyword {junction : Junction} {token : Token}
    (joins : token.isKeyword junction.keyword = true) (after : List Token) :
    junction.operands.Ends (token :: after) := by
  cases junction with
  | and => trivial
  | or =>
      change token.isKeyword .and = false
      rw [Bool.eq_false_iff]
      intro also
      cases isKeyword_unique joins also

/-- Before a closing parenthesis every derivation ends. -/
theorem ends_at_closing (level : Level) {token : Token} (closes : token.kind = .rightParen)
    (after : List Token) : level.Ends (token :: after) := by
  have plain : ∀ keyword, token.isKeyword keyword = false := by
    intro keyword
    simp only [Token.isKeyword, closes, reduceCtorEq, decide_false, Bool.false_and]
  match level with
  | .operand => trivial
  | .joined .and => exact plain .and
  | .joined .or => exact ⟨plain .or, plain .and⟩

/-- Every derivation ends where the tokens end. -/
theorem ends_at_end (level : Level) : level.Ends [] := by
  match level with
  | .operand => trivial
  | .joined .and => rfl
  | .joined .or => exact ⟨rfl, rfl⟩

/-- An operand that others may be joined to ends before them, and where they end if there are
none. -/
theorem operand_ends_before {junction : Junction} (more : Further junction) {after : List Token}
    (ends : (Level.joined junction).Ends after) :
    junction.operands.Ends (more.tokens ++ after) := by
  cases more with
  | none => exact ((ends_joined junction after).mp ends).2
  | next keyword joins operand more => exact operands_end_at_keyword joins _

/-- Operators are told apart by their symbols. -/
theorem Operator.symbol_injective {operator other : Operator}
    (same : operator.symbol = other.symbol) : operator = other := by
  cases operator <;> cases other <;> first | rfl | exact absurd same (by decide)

mutual

/-- **One derivation.** What is derived at the start of some tokens, up to where it ends, has no
other derivation, and ends in no other place. -/
theorem Derivation.unambiguous {level : Level} : ∀ (one other : Derivation level)
    {after after' : List Token}, level.Ends after → level.Ends after' →
      one.tokens ++ after = other.tokens ++ after' → one = other ∧ after = after'
  | .comparison column operatorToken literalToken operator literal named free compares valued,
    other, after, after', _, _, same => by
      -- A comparison starts with a word that is not `NOT`, so only a comparison starts alike.
      cases other with
      | comparison column' operatorToken' literalToken' operator' literal' named' free' compares'
          valued' =>
          simp only [Derivation.tokens, List.cons_append, List.nil_append, List.cons.injEq] at same
          obtain ⟨rfl, rfl, rfl, rfl⟩ := same
          cases Operator.symbol_injective (compares.2.symm.trans compares'.2)
          cases valued.symm.trans valued'
          exact ⟨rfl, rfl⟩
      | negation keyword negates inner =>
          cases List.head_eq_of_cons_eq same
          rw [free] at negates
          cases negates
      | group opening opens inner closing closes =>
          cases List.head_eq_of_cons_eq same
          rw [named] at opens
          cases opens
  | .negation keyword negates inner, other, after, after', ends, ends', same => by
      cases other with
      | comparison column' operatorToken' literalToken' operator' literal' named' free' compares'
          valued' =>
          cases List.head_eq_of_cons_eq same
          rw [free'] at negates
          cases negates
      | negation keyword' negates' inner' =>
          cases List.head_eq_of_cons_eq same
          obtain ⟨rfl, rfl⟩ := inner.unambiguous inner' ends ends' (List.tail_eq_of_cons_eq same)
          exact ⟨rfl, rfl⟩
      | group opening opens inner' closing closes =>
          cases List.head_eq_of_cons_eq same
          rw [kind_of_isKeyword negates] at opens
          cases opens
  | .group opening opens inner closing closes, other, after, after', ends, ends', same => by
      cases other with
      | comparison column' operatorToken' literalToken' operator' literal' named' free' compares'
          valued' =>
          cases List.head_eq_of_cons_eq same
          rw [named'] at opens
          cases opens
      | negation keyword negates inner' =>
          cases List.head_eq_of_cons_eq same
          rw [kind_of_isKeyword negates] at opens
          cases opens
      | group opening' opens' inner' closing' closes' =>
          simp only [Derivation.tokens, List.cons_append, List.append_assoc, List.nil_append,
            List.cons.injEq] at same
          obtain ⟨rfl, same⟩ := same
          -- Both conditions end at a closing parenthesis, which is then the same one.
          obtain ⟨rfl, closed⟩ := inner.unambiguous inner' (ends_at_closing _ closes after)
            (ends_at_closing _ closes' after') same
          cases closed
          exact ⟨rfl, rfl⟩
  | .joined first more, .joined first' more', after, after', ends, ends', same => by
      simp only [Derivation.tokens, List.append_assoc] at same
      obtain ⟨rfl, joined⟩ := first.unambiguous first' (operand_ends_before more ends)
        (operand_ends_before more' ends') same
      obtain ⟨rfl, rfl⟩ := more.unambiguous more' ends ends' joined
      exact ⟨rfl, rfl⟩

/-- The same for further operands. -/
theorem Further.unambiguous {junction : Junction} : ∀ (one other : Further junction)
    {after after' : List Token}, (Level.joined junction).Ends after →
      (Level.joined junction).Ends after' →
      one.tokens ++ after = other.tokens ++ after' → one = other ∧ after = after'
  | .none, .none, after, after', _, _, same => ⟨rfl, same⟩
  | .none, .next keyword joins operand more, after, after', ends, _, same => by
      have stops := ((ends_joined junction after).mp ends).1
      rw [show after = keyword :: _ from same] at stops
      rw [show startsWith _ (keyword :: _) = _ from joins] at stops
      cases stops
  | .next keyword joins operand more, .none, after, after', _, ends', same => by
      have stops := ((ends_joined junction after').mp ends').1
      rw [show after' = keyword :: _ from same.symm] at stops
      rw [show startsWith _ (keyword :: _) = _ from joins] at stops
      cases stops
  | .next keyword joins operand more, .next keyword' joins' operand' more', after, after', ends,
    ends', same => by
      simp only [Further.tokens, List.cons_append, List.append_assoc, List.cons.injEq] at same
      obtain ⟨rfl, same⟩ := same
      obtain ⟨rfl, joined⟩ := operand.unambiguous operand' (operand_ends_before more ends)
        (operand_ends_before more' ends') same
      obtain ⟨rfl, rfl⟩ := more.unambiguous more' ends ends' joined
      exact ⟨rfl, rfl⟩

end

/-! ## Whole queries -/

/-- The derivations of selections. -/
inductive SelectionDerivation where
  /-- A `*` by itself. -/
  | all (star : Token) (whole : star.isWord "*" = true)
  /-- One or more words, none of them `*` or `FROM`. -/
  | columns (names : List Token) (nonempty : names ≠ [])
      (allowed : ∀ name ∈ names,
        name.kind = .word ∧ name.text ≠ "*" ∧ name.isKeyword .from = false)

namespace SelectionDerivation

/-- The tokens of a selection, in order. -/
def tokens : SelectionDerivation → List Token
  | .all star _ => [star]
  | .columns names _ _ => names

/-- The selection that is derived. -/
def selection : SelectionDerivation → Selection
  | .all _ _ => .all
  | .columns names _ _ => .columns (names.map (·.text))

end SelectionDerivation

/-- The derivations of a condition after `WHERE`. -/
structure Restriction where
  /-- The keyword. -/
  keyword : Token
  /-- The keyword is `WHERE`. -/
  restricts : keyword.isKeyword .where = true
  /-- The condition. -/
  condition : Derivation (.joined .or)

/-- The derivations of queries. -/
structure QueryDerivation where
  /-- The first keyword. -/
  select : Token
  /-- The first keyword is `SELECT`. -/
  selects : select.isKeyword .select = true
  /-- The selection. -/
  selection : SelectionDerivation
  /-- The keyword before the source. -/
  origin : Token
  /-- The keyword before the source is `FROM`. -/
  originates : origin.isKeyword .from = true
  /-- The source. -/
  source : Token
  /-- The source is `$`. -/
  given : source.isWord "$" = true
  /-- The condition on the rows, if there is one. -/
  restriction : Option Restriction

namespace QueryDerivation

/-- The tokens from `WHERE` on. -/
def restrictionTokens : Option Restriction → List Token
  | none => []
  | some restriction => restriction.keyword :: restriction.condition.tokens

/-- The tokens of a query, in order. -/
def tokens (derivation : QueryDerivation) : List Token :=
  derivation.select :: (derivation.selection.tokens ++
    derivation.origin :: derivation.source :: restrictionTokens derivation.restriction)

/-- The query that is derived. -/
def query (derivation : QueryDerivation) : Query where
  selection := derivation.selection.selection
  condition := derivation.restriction.map fun restriction => restriction.condition.condition

/-- The greatest number of negations and parentheses that are open at once. -/
def openLevels (derivation : QueryDerivation) : Nat :=
  derivation.restriction.elim 0 fun restriction => restriction.condition.openLevels

/-- The height of the condition; none without a condition. -/
def height (derivation : QueryDerivation) : Nat :=
  derivation.restriction.elim 0 fun restriction => restriction.condition.condition.height

end QueryDerivation

/-- The text of a word that is asked for. -/
theorem text_of_isWord {token : Token} {text : String} (asked : token.isWord text = true) :
    token.text = text := by
  unfold Token.isWord at asked
  exact of_decide_eq_true (Bool.and_eq_true_iff.mp asked).2

/-- What stands before the first token with a property is determined. -/
theorem eq_of_append_from {α : Type} {property : α → Bool} {before before' : List α}
    (absent : ∀ item ∈ before, property item = false)
    (absent' : ∀ item ∈ before', property item = false) {item item' : α}
    (present : property item = true) (present' : property item' = true) {after after' : List α}
    (same : before ++ item :: after = before' ++ item' :: after') :
    before = before' ∧ item :: after = item' :: after' := by
  have taken : ∀ {start : List α} {first : α} {rest : List α},
      (∀ item ∈ start, property item = false) → property first = true →
      (start ++ first :: rest).takeWhile (fun item => !property item) = start := by
    intro start first rest lacking having
    rw [List.takeWhile_append_of_pos fun item member => by rw [lacking item member]; rfl,
      List.takeWhile_cons_of_neg (by rw [having]; exact Bool.false_ne_true), List.append_nil]
  have starts : before = before' := by
    rw [← taken absent present, same, taken absent' present']
  subst starts
  exact ⟨rfl, List.append_cancel_left same⟩

/-- A selection is derived in one way, and ends before the `FROM` after it. -/
theorem SelectionDerivation.unambiguous (one other : SelectionDerivation) {origin origin' : Token}
    (originates : origin.isKeyword .from = true) (originates' : origin'.isKeyword .from = true)
    {after after' : List Token}
    (same : one.tokens ++ origin :: after = other.tokens ++ origin' :: after') :
    one = other ∧ origin = origin' ∧ after = after' := by
  cases one with
  | all star whole =>
      cases other with
      | all star' whole' =>
          cases same
          exact ⟨rfl, rfl, rfl⟩
      | columns names nonempty allowed =>
          obtain ⟨name, names, rfl⟩ := List.exists_cons_of_ne_nil nonempty
          cases List.head_eq_of_cons_eq same
          exact absurd (text_of_isWord whole) (allowed star List.mem_cons_self).2.1
  | columns names nonempty allowed =>
      cases other with
      | all star whole =>
          obtain ⟨name, names, rfl⟩ := List.exists_cons_of_ne_nil nonempty
          cases List.head_eq_of_cons_eq same
          exact absurd (text_of_isWord whole) (allowed _ List.mem_cons_self).2.1
      | columns names' nonempty' allowed' =>
          obtain ⟨rfl, ended⟩ := eq_of_append_from (fun name member => (allowed name member).2.2)
            (fun name member => (allowed' name member).2.2) originates originates' same
          cases ended
          exact ⟨rfl, rfl, rfl⟩

/-- **No ambiguity.** A list of tokens has at most one derivation as a query. -/
theorem QueryDerivation.unambiguous (one other : QueryDerivation)
    (same : one.tokens = other.tokens) : one = other := by
  obtain ⟨select, selects, selection, origin, originates, source, given, restriction⟩ := one
  obtain ⟨select', selects', selection', origin', originates', source', given', restriction'⟩ :=
    other
  simp only [QueryDerivation.tokens, List.cons.injEq] at same
  obtain ⟨rfl, same⟩ := same
  obtain ⟨rfl, rfl, sourced⟩ := selection.unambiguous selection' originates originates' same
  simp only [List.cons.injEq] at sourced
  obtain ⟨rfl, restricted⟩ := sourced
  match restriction, restriction', restricted with
  | none, none, _ => rfl
  | some ⟨keyword, restricts, condition⟩, some ⟨keyword', restricts', condition'⟩, restricted =>
      simp only [QueryDerivation.restrictionTokens, List.cons.injEq] at restricted
      obtain ⟨rfl, restricted⟩ := restricted
      obtain ⟨rfl, -⟩ := condition.unambiguous condition' (ends_at_end _) (ends_at_end _)
        (by rw [restricted])
      rfl

end RowQuery.Grammar
