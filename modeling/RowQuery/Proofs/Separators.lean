import Mathlib.Logic.Relation
import RowQuery.Proofs.QueryReading
import RowQuery.Proofs.TokenAppend
import RowQuery.Proofs.UnclosedStrings

/-! # Separators between tokens

Nothing is carried over a separator: the tokens after it are those of the text after it, moved by
the length of what stands before (`Token.scan_across`). So the separators between two tokens can be
replaced by others without changing the contents of any token (`Token.contents_of_respaced`). What
is read from the tokens depends on their contents alone (`Query.toOption_ofTokens`), so the query
stays the same as well (`Token.separators_interchangeable`).
-/

namespace RowQuery

namespace Token

/-! ## Tokens across separators -/

/-- A separator ends whatever token stands before it. -/
theorem parted_of_starts_separator {c : Char} (divides : isSeparator c = true)
    (left rest : List Char) : Parted left (c :: rest) := by
  refine ⟨?_, ?_, ?_⟩
  · rintro - - - d ⟨⟩
    unfold isWordChar
    rw [divides]
    rfl
  · rintro - ⟨⟩
    cases divides
  · rintro - - - ⟨⟩
    cases divides

/-- Scanning skips separators. -/
theorem scan_separators {run : List Char} (divides : ∀ c ∈ run, isSeparator c = true)
    (position : Nat) (rest : List Char) :
    scan position (run ++ rest) = scan (position + Text.byteLength run) rest := by
  induction run generalizing position with
  | nil => rfl
  | cons c run ih =>
      obtain ⟨here, later⟩ := List.forall_mem_cons.mp divides
      rw [List.cons_append, scan_separator here, ih later, Text.byteLength, Nat.add_assoc]

/-- The tokens on both sides of some separators are those of the two texts. -/
theorem scan_across {left run : List Char} {tokens : List Token}
    (scanned : scan 0 left = .ok tokens) (nonempty : run ≠ [])
    (divides : ∀ c ∈ run, isSeparator c = true) (right : List Char) :
    scan 0 (left ++ (run ++ right)) =
      before tokens (shiftOutcome (Text.byteLength (left ++ run)) (scan 0 right)) := by
  have parted : Parted left (run ++ right) := by
    obtain ⟨c, others, rfl⟩ := List.exists_cons_of_ne_nil nonempty
    exact parted_of_starts_separator (divides c List.mem_cons_self) left _
  rw [scan_append scanned parted, scan_separators divides, Nat.zero_add, ← byteLength_append,
    ← scan_shift, Nat.add_zero]

/-- An even number of quotes closes every string. -/
theorem exists_tokens_of_even {text : List Char} (even : Even (text.count '\'')) :
    ∃ tokens, scan 0 text = .ok tokens := by
  cases scanned : scan 0 text with
  | ok tokens => exact ⟨tokens, rfl⟩
  | error failure =>
      obtain ⟨left, first, -⟩ := firstUnpaired_of_scan scanned
      exact absurd even (Nat.not_even_iff_odd.mpr first.unpaired.odd)

/-! ## Contents of tokens -/

/-- The class and the text of a token, wherever it stands. -/
def content (token : Token) : TokenKind × String := (token.kind, token.text)

/-- The contents of the tokens of a text, if it has tokens. -/
def contents (text : String) : Option (List (TokenKind × String)) :=
  (tokenize text).toOption.map (List.map content)

private theorem kind_of_content {token other : Token} (same : token.content = other.content) :
    token.kind = other.kind :=
  congrArg Prod.fst same

private theorem text_of_content {token other : Token} (same : token.content = other.content) :
    token.text = other.text :=
  congrArg Prod.snd same

private theorem isKeyword_of_content {token other : Token} (same : token.content = other.content)
    (keyword : Keyword) : token.isKeyword keyword = other.isKeyword keyword := by
  rw [isKeyword, isKeyword, kind_of_content same, text_of_content same]

private theorem isWord_of_content {token other : Token} (same : token.content = other.content)
    (text : String) : token.isWord text = other.isWord text := by
  rw [isWord, isWord, kind_of_content same, text_of_content same]

private theorem literal_of_content {token other : Token} (same : token.content = other.content) :
    Literal.ofToken? token = Literal.ofToken? other := by
  rw [Literal.ofToken?, Literal.ofToken?, kind_of_content same, text_of_content same]

end Token

/-! ## Reading tokens of the same contents -/

namespace Grammar

open Token (content)

mutual

/-- Tokens of the same contents have the same derivation, up to where they stand. -/
theorem Derivation.exists_of_content {level : Level} : ∀ (derivation : Derivation level)
    {others : List Token}, derivation.tokens.map content = others.map content →
      ∃ other : Derivation level, other.tokens = others ∧
        other.condition = derivation.condition ∧ other.openLevels = derivation.openLevels
  | .comparison column operatorToken literalToken operator literal named free compares valued,
    others, same => by
      rw [Derivation.tokens] at same
      obtain ⟨column', rest, rfl, sameColumn, sameRest⟩ := List.map_eq_cons_iff.mp same.symm
      obtain ⟨operatorToken', rest, rfl, sameOperator, sameRest⟩ := List.map_eq_cons_iff.mp sameRest
      obtain ⟨literalToken', rest, rfl, sameLiteral, sameRest⟩ := List.map_eq_cons_iff.mp sameRest
      cases List.map_eq_nil_iff.mp sameRest
      refine ⟨.comparison column' operatorToken' literalToken' operator literal
        ((Token.kind_of_content sameColumn).trans named)
        ((Token.isKeyword_of_content sameColumn .not).trans free)
        ⟨(Token.kind_of_content sameOperator).trans compares.1,
          (Token.text_of_content sameOperator).trans compares.2⟩
        ((Token.literal_of_content sameLiteral).trans valued), ?_, ?_, ?_⟩
      · rw [Derivation.tokens]
      · rw [Derivation.condition, Derivation.condition, Token.text_of_content sameColumn]
      · rw [Derivation.openLevels, Derivation.openLevels]
  | .negation keyword negates inner, others, same => by
      rw [Derivation.tokens] at same
      obtain ⟨keyword', rest, rfl, sameKeyword, sameRest⟩ := List.map_eq_cons_iff.mp same.symm
      obtain ⟨inner', rfl, condition, levels⟩ := inner.exists_of_content sameRest.symm
      refine ⟨.negation keyword' ((Token.isKeyword_of_content sameKeyword .not).trans negates)
        inner', ?_, ?_, ?_⟩
      · rw [Derivation.tokens]
      · rw [Derivation.condition, Derivation.condition, condition]
      · rw [Derivation.openLevels, Derivation.openLevels, levels]
  | .group opening opens inner closing closes, others, same => by
      rw [Derivation.tokens, List.map_cons, List.map_append] at same
      obtain ⟨opening', rest, rfl, sameOpening, sameRest⟩ := List.map_eq_cons_iff.mp same.symm
      obtain ⟨middle, last, rfl, sameMiddle, sameLast⟩ := List.map_eq_append_iff.mp sameRest
      obtain ⟨closing', empty, rfl, sameClosing, ended⟩ := List.map_eq_cons_iff.mp sameLast
      cases List.map_eq_nil_iff.mp ended
      obtain ⟨inner', rfl, condition, levels⟩ := inner.exists_of_content sameMiddle.symm
      refine ⟨.group opening' ((Token.kind_of_content sameOpening).trans opens) inner' closing'
        ((Token.kind_of_content sameClosing).trans closes), ?_, ?_, ?_⟩
      · rw [Derivation.tokens]
      · rw [Derivation.condition, Derivation.condition, condition]
      · rw [Derivation.openLevels, Derivation.openLevels, levels]
  | .joined first more, others, same => by
      rw [Derivation.tokens, List.map_append] at same
      obtain ⟨front, back, rfl, sameFront, sameBack⟩ := List.map_eq_append_iff.mp same.symm
      obtain ⟨first', rfl, condition, levels⟩ := first.exists_of_content sameFront.symm
      obtain ⟨more', rfl, joins, otherLevels⟩ := more.exists_of_content sameBack.symm
      refine ⟨.joined first' more', ?_, ?_, ?_⟩
      · rw [Derivation.tokens]
      · rw [Derivation.condition, Derivation.condition, condition, joins]
      · rw [Derivation.openLevels, Derivation.openLevels, levels, otherLevels]

/-- The same for further operands. -/
theorem Further.exists_of_content {junction : Junction} : ∀ (further : Further junction)
    {others : List Token}, further.tokens.map content = others.map content →
      ∃ other : Further junction, other.tokens = others ∧
        (∀ left, other.joinTo left = further.joinTo left) ∧
        other.openLevels = further.openLevels
  | .none, others, same => by
      rw [Further.tokens] at same
      cases List.map_eq_nil_iff.mp same.symm
      exact ⟨.none, rfl, fun _ => rfl, rfl⟩
  | .next keyword joins operand more, others, same => by
      rw [Further.tokens, List.map_cons, List.map_append] at same
      obtain ⟨keyword', rest, rfl, sameKeyword, sameRest⟩ := List.map_eq_cons_iff.mp same.symm
      obtain ⟨front, back, rfl, sameFront, sameBack⟩ := List.map_eq_append_iff.mp sameRest
      obtain ⟨operand', rfl, condition, levels⟩ := operand.exists_of_content sameFront.symm
      obtain ⟨more', rfl, joinsMore, otherLevels⟩ := more.exists_of_content sameBack.symm
      refine ⟨.next keyword' ((Token.isKeyword_of_content sameKeyword _).trans joins) operand'
        more', ?_, fun left => ?_, ?_⟩
      · rw [Further.tokens]
      · rw [Further.joinTo, Further.joinTo, condition, joinsMore]
      · rw [Further.openLevels, Further.openLevels, levels, otherLevels]

end

/-- Tokens with the content of a selection make the same selection. -/
theorem SelectionDerivation.exists_of_content (derivation : SelectionDerivation)
    {others : List Token} (same : derivation.tokens.map content = others.map content) :
    ∃ other : SelectionDerivation, other.tokens = others ∧
      other.selection = derivation.selection := by
  cases derivation with
  | all star whole =>
      obtain ⟨star', empty, rfl, sameStar, ended⟩ := List.map_eq_cons_iff.mp same.symm
      cases List.map_eq_nil_iff.mp ended
      refine ⟨.all star' ?_, rfl, rfl⟩
      rw [Token.isWord_of_content sameStar, whole]
  | columns names nonempty allowed =>
      have texts : others.map (·.text) = names.map (·.text) := by
        have seconds := congrArg (List.map Prod.snd) same
        rw [List.map_map, List.map_map] at seconds
        exact seconds.symm
      refine ⟨.columns others ?_ ?_, rfl, congrArg Selection.columns texts⟩
      · rintro rfl
        exact nonempty (List.map_eq_nil_iff.mp same)
      · intro name member
        have listed : name.content ∈ names.map content := same ▸ List.mem_map_of_mem member
        obtain ⟨other, found, sameName⟩ := List.mem_map.mp listed
        rw [← Token.kind_of_content sameName, ← Token.text_of_content sameName,
          ← Token.isKeyword_of_content sameName]
        exact allowed other found

/-- Tokens with the content of a query make the same query, with the same nesting. -/
theorem QueryDerivation.exists_of_content (derivation : QueryDerivation) {others : List Token}
    (same : derivation.tokens.map content = others.map content) :
    ∃ other : QueryDerivation, other.tokens = others ∧ other.query = derivation.query ∧
      other.openLevels = derivation.openLevels ∧ other.height = derivation.height := by
  obtain ⟨select, selects, selection, origin, originates, source, given, restriction⟩ := derivation
  rw [QueryDerivation.tokens, List.map_cons, List.map_append, List.map_cons, List.map_cons] at same
  obtain ⟨select', _, rfl, sameSelect, afterSelect⟩ := List.map_eq_cons_iff.mp same.symm
  obtain ⟨front, _, rfl, sameFront, fromOrigin⟩ := List.map_eq_append_iff.mp afterSelect
  obtain ⟨origin', _, rfl, sameOrigin, fromSource⟩ := List.map_eq_cons_iff.mp fromOrigin
  obtain ⟨source', rest, rfl, sameSource, sameRest⟩ := List.map_eq_cons_iff.mp fromSource
  clear same afterSelect fromOrigin fromSource
  obtain ⟨selection', rfl, selected⟩ := selection.exists_of_content sameFront.symm
  have selects' := (Token.isKeyword_of_content sameSelect .select).trans selects
  have originates' := (Token.isKeyword_of_content sameOrigin .from).trans originates
  have given' := (Token.isWord_of_content sameSource "$").trans given
  cases restriction with
  | none =>
      cases List.map_eq_nil_iff.mp sameRest
      refine ⟨⟨select', selects', selection', origin', originates', source', given', none⟩, rfl, ?_,
        rfl, rfl⟩
      rw [QueryDerivation.query, QueryDerivation.query, selected]
  | some restriction =>
      obtain ⟨keyword, restricts, condition⟩ := restriction
      obtain ⟨keyword', rest, rfl, sameKeyword, sameRest⟩ := List.map_eq_cons_iff.mp sameRest
      obtain ⟨condition', rfl, derived, levels⟩ := condition.exists_of_content sameRest.symm
      have restricts' := (Token.isKeyword_of_content sameKeyword .where).trans restricts
      refine ⟨⟨select', selects', selection', origin', originates', source', given',
        some ⟨keyword', restricts', condition'⟩⟩, rfl, ?_, levels, ?_⟩
      · simp only [QueryDerivation.query, Option.map_some, selected, derived]
      · exact congrArg Condition.height derived

end Grammar

namespace Query

open Grammar

/-- The query that some tokens form depends on their contents alone. -/
theorem ofTokens_of_content {tokens others : List Token} {query : Query}
    (same : tokens.map Token.content = others.map Token.content)
    (accepted : ofTokens tokens = .ok query) : ofTokens others = .ok query := by
  obtain ⟨derivation, rfl, rfl⟩ := query_derives accepted
  obtain ⟨other, rfl, sameQuery, levels, height⟩ := derivation.exists_of_content same
  -- The answer to the first tokens shows that the limits are kept, so they are here.
  obtain ⟨shallow, low, -⟩ | ⟨-, token, refused⟩ := query_answers derivation
  · obtain ⟨-, -, answered⟩ | ⟨exceeded, -⟩ := query_answers other
    · rw [answered, sameQuery]
    · rw [levels, height] at exceeded
      exact absurd ⟨shallow, low⟩ exceeded
  · cases accepted.symm.trans refused

/-- Which query tokens make does not depend on where they stand. -/
theorem toOption_ofTokens {tokens others : List Token}
    (same : tokens.map Token.content = others.map Token.content) :
    (ofTokens tokens).toOption = (ofTokens others).toOption := by
  apply Option.ext
  intro query
  have some_iff (outcome : Except ParseError Query) :
      outcome.toOption = some query ↔ outcome = .ok query := by
    cases outcome <;> simp [Except.toOption]
  rw [some_iff, some_iff]
  exact ⟨ofTokens_of_content same, ofTokens_of_content same.symm⟩

/-- The query that a text spells depends on the contents of its tokens alone. -/
theorem toOption_parse {text other : String} (same : Token.contents text = Token.contents other) :
    (parse text).toOption = (parse other).toOption := by
  unfold Token.contents at same
  unfold parse
  cases tokenized : Token.tokenize text with
  | error failure =>
      cases otherTokenized : Token.tokenize other with
      | error otherFailure => rfl
      | ok others =>
          rw [tokenized, otherTokenized] at same
          cases same
  | ok tokens =>
      cases otherTokenized : Token.tokenize other with
      | error otherFailure =>
          rw [tokenized, otherTokenized] at same
          cases same
      | ok others =>
          rw [tokenized, otherTokenized] at same
          exact toOption_ofTokens (Option.some.inj same)

end Query

namespace Token

/-! ## Other separators -/

/-- Whether a text is one separator or more. -/
structure Gap (run : String) : Prop where
  nonempty : run.toList ≠ []
  divides : run.toList.all isSeparator = true

/-- Whether a text comes from another by putting some separators in the place of others, outside of
strings: an even number of quotes stands before them. -/
def Respaced (text changed : String) : Prop :=
  ∃ left run other right : String, text = left ++ run ++ right ∧ changed = left ++ other ++ right ∧
    Even (left.toList.count '\'') ∧ Gap run ∧ Gap other

/-- A text across a gap has the tokens of its two parts. -/
theorem tokenize_across {left run : String} {tokens : List Token}
    (tokenized : tokenize left = .ok tokens) (gap : Gap run) (right : String) :
    tokenize (left ++ run ++ right) =
      before tokens (shiftOutcome (left ++ run).utf8ByteSize (tokenize right)) := by
  have divides := List.all_eq_true.mp gap.divides
  have scanned := scan_across tokenized gap.nonempty divides right.toList
  unfold tokenize
  rw [String.toList_append, String.toList_append, List.append_assoc, scanned, utf8ByteSize_eq,
    String.toList_append]

/-- The contents of the tokens on both sides of a gap do not depend on the gap. -/
theorem contents_across {left run : String} {tokens : List Token}
    (tokenized : tokenize left = .ok tokens) (gap : Gap run) (right : String) :
    contents (left ++ run ++ right) =
      (contents right).map fun following => tokens.map content ++ following := by
  unfold contents
  rw [tokenize_across tokenized gap]
  cases tokenize right with
  | error failure => rfl
  | ok more =>
      have moved : more.map (content ∘ shift (left ++ run).utf8ByteSize) = more.map content := rfl
      change some ((tokens ++ more.map (shift _)).map content) = some _
      rw [List.map_append, List.map_map, moved]

/-- Changing the separators between tokens keeps what they are. -/
theorem contents_of_respaced {text changed : String} (respaced : Respaced text changed) :
    contents text = contents changed := by
  obtain ⟨left, run, other, right, rfl, rfl, even, gap, otherGap⟩ := respaced
  obtain ⟨tokens, tokenized⟩ := exists_tokens_of_even even
  rw [contents_across tokenized gap, contents_across tokenized otherGap]

/-- **Separators are interchangeable.** If a text has tokens, then with a separator and a further
text after it, it has these tokens and those of the further text, which stand later by the number
of bytes before them; if the further text fails, so does the whole, by as many bytes later. Hence
one separator or more can be replaced by any others wherever they stand outside of strings, again
and again, without changing the classes and texts of the tokens or the query that is read. -/
theorem separators_interchangeable :
    (∀ (left right : String) (c : Char) (tokens : List Token), isSeparator c = true →
      tokenize left = .ok tokens →
      (∀ more, tokenize right = .ok more → tokenize (left.push c ++ right) =
        .ok (tokens ++ more.map (shift (left.push c).utf8ByteSize))) ∧
      ∀ position, tokenize right = .error ⟨position⟩ →
        tokenize (left.push c ++ right) = .error ⟨(left.push c).utf8ByteSize + position⟩) ∧
    ∀ text changed : String, Relation.ReflTransGen Respaced text changed →
      contents changed = contents text ∧
        (Query.parse changed).toOption = (Query.parse text).toOption := by
  constructor
  · intro left right c tokens divides tokenized
    have gap : Gap (String.singleton c) := by
      constructor <;> simp [divides]
    have across := tokenize_across tokenized gap right
    rw [String.append_singleton] at across
    constructor
    · intro more following
      rw [across, following]
      rfl
    · intro position failed
      rw [across, failed]
      rfl
  · intro text changed respaced
    have same : contents changed = contents text := by
      induction respaced with
      | refl => rfl
      | tail _ step ih => rw [← ih, contents_of_respaced step]
    exact ⟨same, Query.toOption_parse same⟩

/-- A separator of three bytes, before a text that has tokens and one that has none; and separators
of a query after a string that holds one itself. -/
theorem separators_interchangeable_wide :
    isSeparator '\u3000' = true ∧
    tokenize "SELECT 'a b'" = .ok [⟨.word, "SELECT", 0⟩, ⟨.string "a b", "'a b'", 7⟩] ∧
    tokenize "<b" = .ok [⟨.symbol, "<", 0⟩, ⟨.word, "b", 1⟩] ∧
    tokenize ("SELECT 'a b'".push '\u3000' ++ "<b") =
      .ok [⟨.word, "SELECT", 0⟩, ⟨.string "a b", "'a b'", 7⟩, ⟨.symbol, "<", 15⟩,
        ⟨.word, "b", 16⟩] ∧
    tokenize "<'b" = .error ⟨1⟩ ∧
    tokenize ("SELECT 'a b'".push '\u3000' ++ "<'b") = .error ⟨16⟩ ∧
    Respaced "SELECT * FROM $ WHERE a='b c' OR d=1" "SELECT * FROM $ WHERE a='b c',;OR d=1" ∧
    (Query.parse "SELECT * FROM $ WHERE a='b c' OR d=1").toOption.isSome = true ∧
    (Query.parse "SELECT * FROM $ WHERE a='b c',;OR d=1").toOption =
      (Query.parse "SELECT * FROM $ WHERE a='b c' OR d=1").toOption := by
  have divides : isSeparator '\u3000' = true := by decide
  have left : tokenize "SELECT 'a b'" =
      .ok [⟨.word, "SELECT", 0⟩, ⟨.string "a b", "'a b'", 7⟩] := by
    decide +kernel
  have right : tokenize "<b" = .ok [⟨.symbol, "<", 0⟩, ⟨.word, "b", 1⟩] := by decide +kernel
  have unclosed : tokenize "<'b" = .error ⟨1⟩ := by decide +kernel
  have across (right : String) :=
    separators_interchangeable.1 "SELECT 'a b'" right '\u3000' _ divides left
  have respaced : Respaced "SELECT * FROM $ WHERE a='b c' OR d=1"
      "SELECT * FROM $ WHERE a='b c',;OR d=1" :=
    ⟨"SELECT * FROM $ WHERE a='b c'", " ", ",;", "OR d=1", by decide, by decide, by decide,
      ⟨by decide, by decide⟩, ⟨by decide, by decide⟩⟩
  refine ⟨divides, left, right, ?_, unclosed, ?_, respaced, by decide +kernel, ?_⟩
  · rw [(across "<b").1 _ right]
    exact congrArg Except.ok (by decide +kernel)
  · exact (across "<'b").2 1 unclosed
  · exact (separators_interchangeable.2 _ _ (.single respaced)).2

end Token

end RowQuery
