import Mathlib.Data.List.Basic
import RowQuery.Proofs.ParserLocality

/-! # Answers of a parser

Since the parser of queries is local, the token that a failure blames cannot be made good by any
tokens after it (`Query.blamed_token_irreparable`), and a parser may be asked again after a failure
as if it were a new one (`Parser.asked_again`).
-/

namespace RowQuery

namespace Query

private theorem ofTokens_eq_ok_iff {tokens : List Token} {query : Query} :
    ofTokens tokens = .ok query ↔ ∃ after, Parser.query ⟨tokens, 0⟩ = .ok query after := by
  unfold ofTokens
  cases Parser.query ⟨tokens, 0⟩ <;> simp

private theorem ofTokens_eq_error_iff {tokens : List Token} {cause : ParseError} :
    ofTokens tokens = .error cause ↔ ∃ after, Parser.query ⟨tokens, 0⟩ = .error cause after := by
  unfold ofTokens
  cases Parser.query ⟨tokens, 0⟩ <;> simp

/-- **A blamed token is beyond repair.** If a failure blames a token, that token stands at an index
of the list such that no list with the same tokens up to this index is a query. A parenthesis that
is reported as unclosed is one of the list. -/
theorem blamed_token_irreparable (tokens : List Token) (cause : ParseError)
    (failed : ofTokens tokens = .error cause) :
    (∀ token, cause.blamed? = some token → ∃ index, tokens[index]? = some token ∧
      ∀ other : List Token, tokens.take (index + 1) <+: other →
        ∀ query, ofTokens other ≠ .ok query) ∧
    ∀ position, cause = .unclosedParenthesis position →
      ∃ opening ∈ tokens, opening.kind = .leftParen ∧ opening.position = position := by
  obtain ⟨after, refused⟩ := ofTokens_eq_error_iff.mp failed
  have reads : Parser.Local [] Parser.query tokens 0 := Parser.query_local
  constructor
  · intro token blamed
    obtain ⟨before, rest, rfl, refuses⟩ := reads.blames refused token blamed
    have upTo : (before ++ token :: rest).take (before.length + 1) = before ++ [token] := by
      rw [List.append_cons, List.take_left' (by simp)]
    refine ⟨before.length, by simp, ?_⟩
    rintro other ⟨more, rfl⟩ query accepted
    rw [upTo, List.append_assoc, List.singleton_append] at accepted
    obtain ⟨stop, accepted⟩ := ofTokens_eq_ok_iff.mp accepted
    exact refuses more query stop accepted
  · rintro position rfl
    exact reads.opens refused

end Query

namespace Demo

/-- The tokens of `SELECT a FROM $ WHERE NOT (b`, and two more. -/
def openedTokens (operator literal : Token) : List Token :=
  [⟨.word, "SELECT", 0⟩, ⟨.word, "a", 7⟩, ⟨.word, "FROM", 9⟩, ⟨.word, "$", 14⟩,
    ⟨.word, "WHERE", 16⟩, ⟨.word, "NOT", 22⟩, ⟨.leftParen, "(", 26⟩, ⟨.word, "b", 27⟩, operator,
    literal]

/-- A symbol that is no operator. -/
def loneMark : Token := ⟨.symbol, "!", 29⟩

/-- The list with this symbol. -/
def markedTokens : List Token := openedTokens loneMark ⟨.word, "1", 31⟩

/-- The list with a comparison that ends before the parenthesis is closed. -/
def unclosedTokens : List Token := openedTokens ⟨.symbol, "=", 29⟩ ⟨.word, "1", 31⟩

end Demo

/-- The symbol is blamed in the one list, and the parenthesis is missed in the other. -/
theorem Query.blamed_token_irreparable_opened :
    (∃ index, Demo.markedTokens[index]? = some Demo.loneMark ∧
      ∀ other : List Token, Demo.markedTokens.take (index + 1) <+: other →
        ∀ query, Query.ofTokens other ≠ .ok query) ∧
    ∃ opening ∈ Demo.unclosedTokens, opening.kind = .leftParen ∧ opening.position = 26 := by
  constructor
  · have failed : Query.ofTokens Demo.markedTokens = .error (.unknownOperator Demo.loneMark) := by
      decide +kernel
    exact (Query.blamed_token_irreparable _ _ failed).1 _ rfl
  · have failed : Query.ofTokens Demo.unclosedTokens = .error (.unclosedParenthesis 26) := by
      decide +kernel
    exact (Query.blamed_token_irreparable _ _ failed).2 _ rfl

namespace Parser

/-- What a parser answers at a cursor, and the cursor that this leaves it with. -/
def ask (cursor : Cursor) : Except ParseError Query × Cursor :=
  match Parser.query cursor with
  | .ok query after => (.ok query, after)
  | .error cause after => (.error cause, after)

/-- The cursor of a parser that has been asked for a query some number of times. -/
def cursorAfter (tokens : List Token) : (calls : Nat) → Cursor
  | 0 => ⟨tokens, 0⟩
  | calls + 1 => (ask (cursorAfter tokens calls)).2

open Grammar

/-- A query takes up every token. -/
theorem rest_of_query {cursor after : Cursor} {query : Query}
    (accepted : Parser.query cursor = .ok query after) : after.rest = [] := by
  obtain ⟨⟨⟩, _, -, accepted⟩ := ok_of_bind accepted
  obtain ⟨selection, _, -, accepted⟩ := ok_of_bind accepted
  obtain ⟨⟨⟩, _, -, accepted⟩ := ok_of_bind accepted
  obtain ⟨⟨⟩, _, -, accepted⟩ := ok_of_bind accepted
  obtain ⟨condition, ⟨remaining, level⟩, -, accepted⟩ := ok_of_bind accepted
  obtain ⟨⟨⟩, _, finished, accepted⟩ := ok_of_bind accepted
  cases accepted
  obtain rfl : remaining = [] := finish_eq_ok finished
  cases finished
  rfl

/-- One call closes all levels, moves the cursor forwards and answers as a new parser would. -/
theorem ask_closed (rest : List Token) :
    ∃ after, ask ⟨rest, 0⟩ = (Query.ofTokens rest, ⟨after, 0⟩) ∧ after <:+ rest ∧
      ∀ query, Query.ofTokens rest = .ok query → after = [] := by
  have reads : Local [] Parser.query rest 0 := query_local
  unfold ask Query.ofTokens
  cases answer : Parser.query ⟨rest, 0⟩ with
  | ok query after =>
      obtain ⟨after, level⟩ := after
      obtain ⟨rfl, consumed, same, -⟩ := reads.accepts answer
      exact ⟨after, rfl, ⟨consumed, same.symm⟩, fun _ _ => rest_of_query answer⟩
  | error cause after =>
      obtain ⟨after, level⟩ := after
      obtain ⟨rfl, moved⟩ := reads.stops answer
      exact ⟨after, rfl, moved, nofun⟩

/-- After any number of calls all levels are closed, by induction on the calls. -/
theorem cursorAfter_closed (tokens : List Token) (calls : Nat) :
    ∃ rest, cursorAfter tokens calls = ⟨rest, 0⟩ ∧ rest <:+ tokens := by
  induction calls with
  | zero => exact ⟨tokens, rfl, List.suffix_refl _⟩
  | succ calls ih =>
      obtain ⟨rest, here, moved⟩ := ih
      obtain ⟨after, asked, movedOn, -⟩ := ask_closed rest
      exact ⟨after, by rw [cursorAfter, here, asked], movedOn.trans moved⟩

/-- **A parser can be asked again.** Whatever the tokens and however often a parser is asked, its
cursor stands after each call at a place among the tokens with no level open. The place never moves
backwards, and after a query was read it is the end. Each call answers as a new parser on the tokens
from the place on.

A cursor has the tokens that are left and no count of those before it. That the place lies among the
tokens is therefore in the first equation, by which what is left is a suffix of them; the bound on
the place follows from how it is counted. -/
theorem asked_again (tokens : List Token) : ∃ place : Nat → Nat, place 0 = 0 ∧ ∀ calls,
    cursorAfter tokens calls = ⟨tokens.drop (place calls), 0⟩ ∧
    place calls ≤ place (calls + 1) ∧ place calls ≤ tokens.length ∧
    (ask (cursorAfter tokens calls)).1 = Query.ofTokens (tokens.drop (place calls)) ∧
    ∀ query, (ask (cursorAfter tokens calls)).1 = .ok query →
      place (calls + 1) = tokens.length := by
  refine ⟨fun calls => tokens.length - (cursorAfter tokens calls).rest.length, Nat.sub_self _, ?_⟩
  intro calls
  obtain ⟨rest, here, moved⟩ := cursorAfter_closed tokens calls
  obtain ⟨after, asked, movedOn, ends⟩ := ask_closed rest
  have next : cursorAfter tokens (calls + 1) = ⟨after, 0⟩ := by rw [cursorAfter, here, asked]
  dsimp only
  rw [next, here, asked, ← List.suffix_iff_eq_drop.mp moved]
  refine ⟨rfl, Nat.sub_le_sub_left movedOn.length_le _, Nat.sub_le .., rfl, ?_⟩
  intro query accepted
  rw [ends query accepted]
  rfl

end Parser

end RowQuery
