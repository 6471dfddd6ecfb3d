import RowQuery.Proofs.QueryReading

/-! # What a parser depends on

A parser is local (`Parser.Local`) if it moves its cursor only forwards and closes every level that
it opens, whether it succeeds or not, if what it accepts depends on no more than the tokens consumed
and the one after them, and if a token that it blames cannot be made good by other tokens after it.
Sequencing keeps locality (`Local.bind`), and so do opening a level and joining operands, so the
parser of queries is local (`query_local`).
-/

namespace RowQuery

/-- The token that a failure blames for standing where it may not. -/
def ParseError.blamed? : ParseError → Option Token
  | .unexpectedToken token => some token
  | .expectedKeyword _ found => found
  | .unknownOperator token => some token
  | .invalidLiteral token => some token
  | .invalidSource token => some token
  | .invalidSelection token => some token
  | _ => none

namespace Parser

open Grammar

variable {α β : Type} {seen tokens : List Token} {opened : Nat} {token : Token}

/-- Whether a parenthesis that is said to be open at a position is one of some tokens. -/
def Opens (position : Nat) (tokens : List Token) : Prop :=
  ∃ opening ∈ tokens, opening.kind = .leftParen ∧ opening.position = position

private theorem Opens.mono {position : Nat} {larger : List Token} (opens : Opens position tokens)
    (subset : tokens ⊆ larger) : Opens position larger := by
  obtain ⟨opening, member, isOpening, placed⟩ := opens
  exact ⟨opening, subset member, isOpening, placed⟩

/-- Whether a parser is local where some tokens are left and a number of levels is open. A
parenthesis that it finds unclosed is one of these tokens or of those seen before them. -/
structure Local (seen : List Token) (read : Parser α) (tokens : List Token) (opened : Nat) :
    Prop where
  /-- What is accepted is accepted before any tokens that start with the same one. -/
  accepts : ∀ {value : α} {after : Cursor}, read ⟨tokens, opened⟩ = .ok value after →
    after.openLevels = opened ∧ ∃ consumed, tokens = consumed ++ after.rest ∧
      ∀ other : List Token, other.head? = after.rest.head? →
        read ⟨consumed ++ other, opened⟩ = .ok value ⟨other, opened⟩
  /-- A failure leaves the cursor at a later place, with the levels closed. -/
  stops : ∀ {cause : ParseError} {after : Cursor}, read ⟨tokens, opened⟩ = .error cause after →
    after.openLevels = opened ∧ after.rest <:+ tokens
  /-- Nothing that starts with the tokens up to a blamed one is accepted. -/
  blames : ∀ {cause : ParseError} {after : Cursor}, read ⟨tokens, opened⟩ = .error cause after →
    ∀ token ∈ cause.blamed?, ∃ before rest, tokens = before ++ token :: rest ∧
      ∀ (other : List Token) (value : α) (stop : Cursor),
        read ⟨before ++ token :: other, opened⟩ ≠ .ok value stop
  /-- An unclosed parenthesis is one that was opened. -/
  opens : ∀ {position : Nat} {after : Cursor},
    read ⟨tokens, opened⟩ = .error (.unclosedParenthesis position) after →
      Opens position (seen ++ tokens)

namespace Local

/-- Returning a value reads nothing. -/
theorem pure (value : α) : Local seen (pure value) tokens opened where
  accepts := by
    intro result after accepted
    cases accepted
    exact ⟨rfl, [], rfl, fun other _ => rfl⟩
  stops refused := nomatch refused
  blames refused := nomatch refused
  opens refused := nomatch refused

/-- A read that fails is local if it blames only what it could not accept. -/
theorem of_error {read : Parser α} {cause : ParseError} {rest : List Token}
    (failed : read ⟨tokens, opened⟩ = .error cause ⟨rest, opened⟩) (moved : rest <:+ tokens)
    (blames : ∀ token ∈ cause.blamed?, ∃ before rest, tokens = before ++ token :: rest ∧
      ∀ (other : List Token) (value : α) (stop : Cursor),
        read ⟨before ++ token :: other, opened⟩ ≠ .ok value stop)
    (opens : ∀ position, cause = .unclosedParenthesis position →
      Opens position (seen ++ tokens)) : Local seen read tokens opened where
  accepts accepted := by
    rw [failed] at accepted
    cases accepted
  stops refused := by
    rw [failed] at refused
    cases refused
    exact ⟨rfl, moved⟩
  blames refused := by
    rw [failed] at refused
    cases refused
    exact blames
  opens refused := by
    rw [failed] at refused
    cases refused
    exact opens _ rfl

/-- A failure may blame the next token. -/
theorem throw {cause : ParseError} (next : ∀ token ∈ cause.blamed?, tokens.head? = some token)
    (opens : ∀ position, cause = .unclosedParenthesis position →
      Opens position (seen ++ tokens)) : Local seen (throw cause : Parser α) tokens opened := by
  refine of_error rfl (List.suffix_refl _) ?_ opens
  intro token blamed
  obtain ⟨rest, rfl⟩ := List.head?_eq_some_iff.mp (next token blamed)
  exact ⟨[], rest, rfl, nofun⟩

private theorem mono {read : Parser α} {more : List Token} (reads : Local seen read tokens opened)
    (subset : seen ⊆ more) : Local more read tokens opened where
  accepts := reads.accepts
  stops := reads.stops
  blames := reads.blames
  opens refused := by
    apply (reads.opens refused).mono
    exact List.append_subset.mpr
      ⟨List.Subset.trans subset (List.subset_append_left ..), List.subset_append_right ..⟩

/-- A parser that always consumes some tokens is local if what it does after them is, with these
tokens seen. It may have looked at the token after them. -/
theorem past {read rest : Parser α} (consumed : List Token)
    (same : ∀ other : List Token, other.head? = tokens.head? →
      read ⟨consumed ++ other, opened⟩ = rest ⟨other, opened⟩)
    (later : Local (consumed ++ seen) rest tokens opened) :
    Local seen read (consumed ++ tokens) opened := by
  have here := same tokens rfl
  refine ⟨?_, ?_, ?_, ?_⟩
  · intro value after accepted
    rw [here] at accepted
    obtain ⟨closed, more, rfl, stable⟩ := later.accepts accepted
    refine ⟨closed, consumed ++ more, (List.append_assoc ..).symm, fun other alike => ?_⟩
    rw [List.append_assoc, same (more ++ other) (by simp only [List.head?_append, alike])]
    exact stable other alike
  · intro cause after refused
    rw [here] at refused
    obtain ⟨closed, moved⟩ := later.stops refused
    exact ⟨closed, moved.trans (List.suffix_append ..)⟩
  · intro cause after refused token blamed
    rw [here] at refused
    obtain ⟨before, rest, rfl, refuses⟩ := later.blames refused token blamed
    refine ⟨consumed ++ before, rest, (List.append_assoc ..).symm, fun other value stop => ?_⟩
    rw [List.append_assoc, same (before ++ token :: other) (by simp [List.head?_append])]
    exact refuses other value stop
  · intro position after refused
    rw [here] at refused
    apply (later.opens refused).mono
    intro opening member
    grind

/-- **Sequencing.** The first step accepts the same before whatever the second one may be given, as
long as that starts with the same token. -/
theorem bind {first : Parser α} {next : α → Parser β} (starts : Local seen first tokens opened)
    (continues : ∀ (value : α) (after : Cursor), first ⟨tokens, opened⟩ = .ok value after →
      Local seen (next value) after.rest opened) :
    Local seen (first >>= next) tokens opened := by
  cases read : first ⟨tokens, opened⟩ with
  | error cause after =>
      obtain ⟨rest, level⟩ := after
      obtain ⟨rfl, moved⟩ := starts.stops read
      refine of_error (bind_of_error read) moved ?_ ?_
      · intro token blamed
        obtain ⟨before, rest, same, refuses⟩ := starts.blames read token blamed
        refine ⟨before, rest, same, fun other value stop accepted => ?_⟩
        obtain ⟨middle, between, accepted, -⟩ := ok_of_bind accepted
        exact refuses other middle between accepted
      · rintro position rfl
        exact starts.opens read
  | ok value between =>
      have later := continues value between read
      obtain ⟨remaining, level⟩ := between
      obtain ⟨balanced, consumed, rfl, stable⟩ := starts.accepts read
      obtain rfl : opened = level := balanced.symm
      apply past consumed
      · intro other same
        exact bind_of_ok (stable other same)
      · exact later.mono (List.subset_append_right ..)

end Local

/-! ## Single steps -/

private theorem peek_local {next : Option Token → Parser α}
    (continues : Local seen (next tokens.head?) tokens opened) :
    Local seen (peek >>= next) tokens opened := by
  apply Local.past [] _ continues
  intro other same
  rw [List.nil_append, peek_bind, same]

private theorem advance_local : Local seen advance (token :: tokens) opened := by
  have done : Local ([token] ++ seen) (Pure.pure () : Parser Unit) tokens opened := Local.pure ()
  exact Local.past [token] (fun _ _ => rfl) done

private theorem advance_bind_local {next : Unit → Parser α}
    (continues : Local (token :: seen) (next ()) tokens opened) :
    Local seen (advance >>= next) (token :: tokens) opened :=
  Local.past [token] (fun _ _ => rfl) continues

private theorem expectKeyword_local (keyword : Keyword) :
    Local seen (expectKeyword keyword) tokens opened := by
  apply peek_local
  cases tokens with
  | nil => exact Local.throw nofun nofun
  | cons token rest =>
      dsimp only [List.head?_cons]
      split
      · exact advance_local
      · apply Local.throw
        · rintro found ⟨⟩
          rfl
        · nofun

private theorem checkHeight_local (token : Token) (condition : Condition) :
    Local seen (checkHeight token condition) tokens opened := by
  unfold checkHeight
  split
  · exact Local.throw nofun nofun
  · exact Local.pure condition

private theorem ok_of_nested {read : Parser Condition} {condition : Condition} {after : Cursor}
    (room : opened < maxNesting)
    (accepted : nested token read ⟨tokens, opened⟩ = .ok condition after) :
    ∃ inner, read ⟨tokens, opened + 1⟩ = .ok condition inner := by
  cases found : read ⟨tokens, opened + 1⟩ with
  | ok value inner =>
      rw [nested_of_ok room found] at accepted
      cases accepted
      exact ⟨inner, rfl⟩
  | error cause inner =>
      rw [nested_of_error room found] at accepted
      cases accepted

/-- **Opening a level.** The level is closed again whatever happens inside it. -/
theorem nested_local (token : Token) {read : Parser Condition}
    (inner : Local seen read tokens (opened + 1)) :
    Local seen (nested token read) tokens opened := by
  rcases Nat.lt_or_ge opened maxNesting with room | full
  · cases found : read ⟨tokens, opened + 1⟩ with
    | ok value after =>
        obtain ⟨rest, level⟩ := after
        obtain ⟨balanced, consumed, rfl, stable⟩ := inner.accepts found
        have closes (other : List Token) (same : other.head? = rest.head?) :
            nested token read ⟨consumed ++ other, opened⟩ =
              (Pure.pure value : Parser Condition) ⟨other, opened⟩ :=
          nested_of_ok room (stable other same)
        exact Local.past consumed closes (Local.pure value)
    | error cause after =>
        obtain ⟨rest, level⟩ := after
        obtain ⟨rfl, moved⟩ := inner.stops found
        refine Local.of_error (nested_of_error room found) moved ?_ ?_
        · intro blamed blame
          obtain ⟨before, rest, same, refuses⟩ := inner.blames found blamed blame
          refine ⟨before, rest, same, fun other value stop accepted => ?_⟩
          obtain ⟨stop, accepted⟩ := ok_of_nested room accepted
          exact refuses other value stop accepted
        · rintro position rfl
          exact inner.opens found
  · exact Local.of_error (nested_of_full full) (List.suffix_refl _) nofun nofun

/-- A comparison consumes its three tokens before it judges them, and blames the first that is
wrong; those after it do not matter. -/
theorem comparison_local : Local seen comparison tokens opened := by
  match tokens with
  | [] => exact Local.of_error rfl (List.suffix_refl _) nofun nofun
  | [_] => exact Local.of_error rfl (List.suffix_refl _) nofun nofun
  | [_, _] => exact Local.of_error rfl (List.suffix_refl _) nofun nofun
  | column :: operatorToken :: literalToken :: rest =>
      have moved : rest <:+ column :: operatorToken :: literalToken :: rest :=
        List.suffix_append [column, operatorToken, literalToken] rest
      by_cases named : column.kind = .word
      · cases compares : Operator.ofToken? operatorToken with
        | none =>
            refine Local.of_error (comparison_of_unknown named compares) moved ?_ nofun
            rintro blamed ⟨⟩
            refine ⟨[column], literalToken :: rest, rfl, fun other value stop accepted => ?_⟩
            obtain ⟨_, _, _, _, _, same, -, -, compared, -⟩ := comparison_eq_ok accepted
            cases same
            cases compares.symm.trans compared
        | some operator =>
            cases valued : Literal.ofToken? literalToken with
            | none =>
                refine Local.of_error (comparison_of_invalid named compares valued) moved ?_ nofun
                rintro blamed ⟨⟩
                refine ⟨[column, operatorToken], rest, rfl, fun other value stop accepted => ?_⟩
                obtain ⟨_, _, _, _, _, same, -, -, -, literal, -⟩ := comparison_eq_ok accepted
                cases same
                cases valued.symm.trans literal
            | some literal =>
                exact Local.past [column, operatorToken, literalToken]
                  (fun other _ => comparison_apply named compares valued other) (Local.pure _)
      · refine Local.of_error (comparison_of_unnamed named) moved ?_ nofun
        rintro blamed ⟨⟩
        refine ⟨[], operatorToken :: literalToken :: rest, rfl, fun other value stop accepted => ?_⟩
        obtain ⟨_, _, _, _, _, same, -, word, -⟩ := comparison_eq_ok accepted
        cases same
        exact named word

/-- A parenthesis that is not closed is blamed on the opening one, which was seen. -/
theorem closeParen_local {opening : Token} (opens : opening.kind = .leftParen)
    (member : opening ∈ seen) : Local seen (closeParen opening) tokens opened := by
  have unclosed : Local seen (throw (.unclosedParenthesis opening.position) : Parser Unit) tokens
      opened := by
    apply Local.throw
    · nofun
    · rintro position ⟨⟩
      exact ⟨opening, List.mem_append_left _ member, opens, rfl⟩
  apply peek_local
  cases tokens with
  | nil => exact unclosed
  | cons token rest =>
      dsimp only [List.head?_cons]
      split
      · exact advance_local
      · exact unclosed

/-! ## Conditions -/

/-- **Joining.** The loop looks at one token after what it has consumed: the keyword that goes on,
or whatever stands there in its place. -/
theorem joinMore_local {read : Parser Condition} (keyword : Keyword)
    (join : Condition → Condition → Condition)
    (operands : ∀ seen tokens, Local seen read tokens opened) (bound : Nat) :
    ∀ (left : Condition) (seen tokens : List Token),
      Local seen (joinMore keyword join read bound left) tokens opened := by
  induction bound with
  | zero => exact fun left _ _ => Local.pure left
  | succ bound ih =>
      intro left seen tokens
      rw [joinMore]
      apply peek_local
      cases tokens with
      | nil => exact Local.pure left
      | cons token rest =>
          dsimp only [List.head?_cons]
          split
          · apply advance_bind_local
            apply (operands _ _).bind
            intro right after _
            apply (checkHeight_local _ _).bind
            intro joined after _
            exact ih joined _ _
          · exact Local.pure left

/-- Joined operands are local, if one operand is. -/
theorem joined_local {read : Parser Condition} (keyword : Keyword)
    (join : Condition → Condition → Condition)
    (operands : ∀ seen tokens, Local seen read tokens opened) (seen tokens : List Token) :
    Local seen (Parser.joined keyword join read) tokens opened := by
  apply (operands seen tokens).bind
  intro first after _
  exact joinMore_local keyword join operands maxNesting first seen after.rest

private theorem disjunction_local {read : Parser Condition}
    (operands : ∀ seen tokens, Local seen read tokens opened) (seen tokens : List Token) :
    Local seen (disjunction read) tokens opened :=
  joined_local .or .or (joined_local .and .and operands) seen tokens

/-- An operand is local, if what is read a level deeper is. -/
theorem operandWith_local {deeper : Token → Parser Condition}
    (operands : ∀ token seen tokens, Local seen (deeper token) tokens (opened + 1))
    (seen tokens : List Token) : Local seen (operandWith deeper) tokens opened := by
  apply peek_local
  cases tokens with
  | nil => exact Local.throw nofun nofun
  | cons token rest =>
      dsimp only [List.head?_cons]
      split
      · apply advance_bind_local
        apply (nested_local token (operands token _ _)).bind
        intro inner after _
        exact checkHeight_local token (.not inner)
      · split
        · rename_i opens
          apply advance_bind_local
          apply (nested_local token (disjunction_local (operands token) _ _)).bind
          intro inner after _
          -- The parenthesis that may stay unclosed has just been seen.
          apply (closeParen_local opens List.mem_cons_self).bind
          intro _ after _
          exact Local.pure inner
        · exact comparison_local

/-- Operands are local at every level, by induction on the levels that they may still open. -/
theorem operand_local (levels : Nat) :
    ∀ (opened : Nat) (seen tokens : List Token), Local seen (operand levels) tokens opened := by
  induction levels with
  | zero =>
      intro opened seen tokens
      apply operandWith_local
      intro token seen tokens
      exact Local.throw nofun nofun
  | succ levels ih =>
      intro opened seen tokens
      apply operandWith_local
      intro token seen tokens
      exact ih (opened + 1) seen tokens

/-- Reading a condition is local. -/
theorem condition_local : Local seen condition tokens opened := by
  -- How many levels may be opened depends on the levels open around, not on the tokens.
  have reads := disjunction_local (operand_local (maxNesting - opened) opened) seen tokens
  apply Local.past [] _ reads
  intro other _
  rfl

/-! ## Queries -/

private theorem columnList_local : Local seen columnList tokens opened := by
  have allowed : ∀ name ∈ tokens.takeWhile isColumnName, isColumnName name = true :=
    fun name member => List.all_eq_true.mp List.all_takeWhile name member
  have ended : ∀ token ∈ (tokens.dropWhile isColumnName).head?, isColumnName token = false := by
    intro token first
    have stopped := List.head?_dropWhile_not isColumnName tokens
    rw [show (tokens.dropWhile isColumnName).head? = some token from first] at stopped
    exact stopped
  rw [← List.takeWhile_append_dropWhile (p := isColumnName) (l := tokens)]
  generalize tokens.takeWhile isColumnName = names at allowed ⊢
  generalize tokens.dropWhile isColumnName = rest at ended ⊢
  by_cases originates : ∀ token ∈ rest.head?, token.isKeyword .from = true
  · have listed : Local (names ++ seen)
        (if names = [] then MonadExcept.throw .emptySelection
          else Pure.pure (.columns (names.map (·.text))) : Parser Selection) rest opened := by
      split
      · exact Local.throw nofun nofun
      · exact Local.pure _
    exact Local.past names (fun other same => columnList_of_from allowed (same ▸ originates)) listed
  · cases rest with
    | nil => exact absurd nofun originates
    | cons token rest =>
        have other : token.isKeyword .from = false := by
          apply Bool.eq_false_iff.mpr
          intro isFrom
          apply originates
          rintro next ⟨⟩
          exact isFrom
        have refused : Local (names ++ seen)
            (MonadExcept.throw (.invalidSelection token) : Parser Selection) (token :: rest)
            opened := by
          apply Local.throw
          · rintro found ⟨⟩
            rfl
          · nofun
        refine Local.past names (fun tokens same => ?_) refused
        obtain ⟨after, rfl⟩ := List.head?_eq_some_iff.mp same
        exact columnList_of_other allowed (ended token rfl) other after

/-- Reading a selection is local. -/
theorem selection_local : Local seen selection tokens opened := by
  apply peek_local
  cases tokens with
  | nil => exact Local.throw nofun nofun
  | cons first rest =>
      dsimp only [List.head?_cons]
      split
      · apply advance_bind_local
        apply peek_local
        cases rest with
        | nil => exact Local.pure _
        | cons token rest =>
            dsimp only [List.head?_cons]
            split
            · apply Local.throw
              · rintro found ⟨⟩
                rfl
              · nofun
            · exact Local.pure _
      · exact columnList_local

private theorem source_local : Local seen source tokens opened := by
  cases tokens with
  | nil => exact Local.of_error rfl (List.suffix_refl _) nofun nofun
  | cons token rest =>
      cases given : token.isWord "$" with
      | true =>
          exact Local.past [token] (fun other _ => source_of_isWord given other) (Local.pure ())
      | false =>
          have failed : source ⟨token :: rest, opened⟩ =
              .error (.invalidSource token) ⟨rest, opened⟩ := by
            rw [source, peek_bind]
            simp only [List.head?_cons, advance_bind, given, Bool.false_eq_true, ↓reduceIte]
            rfl
          apply Local.of_error failed (List.suffix_cons ..)
          · rintro blamed ⟨⟩
            refine ⟨[], rest, rfl, fun other value stop accepted => ?_⟩
            obtain ⟨found, dollar, same, -⟩ := source_eq_ok accepted
            cases same
            cases given.symm.trans dollar
          · rintro position ⟨⟩

/-- Reading a restriction is local. -/
theorem whereClause_local : Local seen whereClause tokens opened := by
  apply peek_local
  cases tokens with
  | nil => exact Local.pure _
  | cons token rest =>
      dsimp only [List.head?_cons]
      split
      · apply advance_bind_local
        apply peek_local
        cases rest with
        | nil => exact Local.throw nofun nofun
        | cons first rest =>
            apply condition_local.bind
            intro condition after _
            exact Local.pure _
      · exact Local.pure _

private theorem finish_local : Local seen finish tokens opened := by
  cases tokens with
  | nil => exact peek_local (Local.pure ())
  | cons token rest =>
      have failed : finish ⟨token :: rest, opened⟩ =
        .error (.unexpectedToken token) ⟨rest, opened⟩ := rfl
      refine Local.of_error failed (List.suffix_cons ..) ?_ nofun
      rintro blamed ⟨⟩
      exact ⟨[], rest, rfl, fun other value stop accepted => nomatch finish_eq_ok accepted⟩

/-- Reading a query is local. -/
theorem query_local : Local seen Parser.query tokens opened := by
  apply (expectKeyword_local .select).bind
  intro _ _ _
  apply selection_local.bind
  intro selection _ _
  apply (expectKeyword_local .from).bind
  intro _ _ _
  apply source_local.bind
  intro _ _ _
  apply whereClause_local.bind
  intro condition _ _
  apply finish_local.bind
  intro _ _ _
  exact Local.pure _

end Parser

end RowQuery
