import RowQuery.Literal
import RowQuery.Proofs.TokenSegments

/-! # Tokens of texts in a row

Where no token reaches across the seam of two texts (`Token.Parted`), the tokens of the whole are
those of the first and then those of the second, moved by the length of the first
(`Token.scan_append`, `Token.scan_shift`). A quoted string is parted from whatever stands around it,
quotes apart, so no value can end its own literal early (`Token.tokenize_around_literal`).
-/

namespace RowQuery.Token

/-! ## Moving tokens -/

/-- A token that stands further on in a text. -/
def shift (offset : Nat) (token : Token) : Token :=
  { token with position := offset + token.position }

/-- The outcome of a scan that starts further on in a text. -/
def shiftOutcome (offset : Nat) :
    Except Unterminated (List Token) → Except Unterminated (List Token)
  | .ok tokens => .ok (tokens.map (shift offset))
  | .error unterminated => .error ⟨offset + unterminated.position⟩

private theorem shiftOutcome_map_cons (offset : Nat) (token : Token)
    (following : Except Unterminated (List Token)) :
    shiftOutcome offset (following.map (token :: ·)) =
      before [shift offset token] (shiftOutcome offset following) := by
  cases following <;> rfl

/-- What is scanned does not depend on where the scan starts. -/
theorem scan_shift (offset position : Nat) (input : List Char) :
    scan (offset + position) input = shiftOutcome offset (scan position input) := by
  fun_induction scan position input with
  | case1 position =>
      rw [scan]
      rfl
  | case2 position c rest divides ih => rw [scan_separator divides, Nat.add_assoc, ih]
  | case3 position c rest kept missing =>
      rw [scan_of_none (Bool.eq_false_iff.mpr kept) missing]
      rfl
  | case4 position c rest kept lexeme found shorter ih =>
      rw [scan_lexeme (Bool.eq_false_iff.mpr kept) found, Nat.add_assoc, ih, shiftOutcome_map_cons]
      rfl

/-! ## Seams -/

/-- Whether no token reaches from the end of a text into the next: no word goes on, no quote is
doubled, and no symbol takes an equality sign. -/
structure Parted (left right : List Char) : Prop where
  words : Apart left right
  quotes : left.getLast? = some '\'' → right.head? ≠ some '\''
  symbols : ∀ c, left.getLast? = some c → c = '!' ∨ c = '>' ∨ c = '<' → right.head? ≠ some '='

private theorem Parted.of_append {left right : List Char} (front : List Char)
    (parted : Parted (front ++ left) right) : Parted left right := by
  have ends {c : Char} (last : left.getLast? = some c) : (front ++ left).getLast? = some c := by
    rw [List.getLast?_append, last, Option.some_or]
  exact ⟨fun c last => parted.words c (ends last), fun last => parted.quotes (ends last),
    fun c last => parted.symbols c (ends last)⟩

/-- A quote ends every token but a string. -/
theorem parted_of_starts_quote {left : List Char} (ended : left.getLast? ≠ some '\'')
    (rest : List Char) : Parted left ('\'' :: rest) := by
  refine ⟨?_, fun last => absurd last ended, ?_⟩
  · rintro c - - d ⟨⟩
    rfl
  · rintro c - - ⟨⟩

/-- A string ends at a quote that no other follows. -/
theorem parted_of_ends_quote {left right : List Char} (last : left.getLast? = some '\'')
    (ended : right.head? ≠ some '\'') : Parted left right := by
  refine ⟨apart_of_getLast? last (by decide) right, fun _ => ended, ?_⟩
  rintro c same starts
  cases last.symm.trans same
  exact absurd starts (by decide)

private theorem complete_congr {token : Token} {right other : List Char}
    (same : right.head? = other.head?) : token.Complete right ↔ token.Complete other := by
  unfold Complete
  rw [same]

/-- A token that ends a text is complete before every text that is parted from it. -/
theorem complete_of_parted {token : Token} {right : List Char} (complete : token.Complete [])
    (parted : Parted token.text.toList right) : token.Complete right := by
  obtain ⟨kind, text, position⟩ := token
  cases kind with
  | word =>
      obtain ⟨nonempty, all, -⟩ := complete
      refine ⟨nonempty, all, ?_⟩
      exact parted.words _ (List.getLast?_eq_some_getLast nonempty)
        (all _ (List.getLast_mem nonempty))
  | string value =>
      obtain ⟨rfl, -⟩ := complete
      exact ⟨rfl, parted.quotes (getLast?_quoteLiteral value)⟩
  | symbol =>
      refine ⟨complete.1, fun lone => ?_⟩
      obtain ⟨c, starts, same⟩ := openSymbol_eq_singleton lone
      exact parted.symbols c (congrArg List.getLast? same) starts
  | leftParen => exact complete
  | rightParen => exact complete

/-- A token that is complete stays so where another text is appended apart from it. -/
theorem Complete.append {token : Token} {left right : List Char} (complete : token.Complete left)
    (parted : Parted (token.text.toList ++ left) right) : token.Complete (left ++ right) := by
  cases left with
  | nil =>
      rw [List.append_nil] at parted
      exact complete_of_parted complete parted
  | cons c left => exact (complete_congr rfl).mp complete

/-- The token that is cut off a text is cut off whatever is parted from the text and follows it. -/
theorem lexeme?_append {c : Char} {rest right : List Char} {lexeme : Lexeme}
    (kept : isSeparator c = false) (found : lexeme? c rest = some lexeme)
    (parted : Parted (c :: rest) right) :
    lexeme? c (rest ++ right) = some ⟨lexeme.kind, lexeme.text, lexeme.rest ++ right⟩ := by
  obtain ⟨same, complete⟩ := complete_of_lexeme? kept found 0
  have spelled : (String.ofList lexeme.text).toList = lexeme.text := String.toList_ofList
  rw [same, ← spelled] at parted
  obtain ⟨d, others, starts, -, cut⟩ := lexeme?_of_complete (complete.append parted)
  dsimp only at starts cut
  rw [spelled] at starts cut
  rw [starts, List.cons_append] at same
  obtain ⟨rfl, rfl⟩ := List.cons.inj same
  rw [List.append_assoc]
  exact cut

/-- **Scanning texts in a row.** The induction is on the scan of the first text: what is parted from
it is parted from all that the scan leaves of it. -/
theorem scan_append {position : Nat} {left right : List Char} {tokens : List Token}
    (scanned : scan position left = .ok tokens) (parted : Parted left right) :
    scan position (left ++ right) =
      before tokens (scan (position + Text.byteLength left) right) := by
  fun_induction scan position left generalizing tokens with
  | case1 position =>
      cases scanned
      rw [before_nil]
      rfl
  | case2 position c rest divides ih =>
      rw [List.cons_append, scan_separator divides, ih scanned (parted.of_append [c]),
        Text.byteLength, Nat.add_assoc]
  | case3 position c rest kept missing => cases scanned
  | case4 position c rest kept lexeme found shorter ih =>
      obtain ⟨others, following, rfl⟩ := map_cons_eq_ok_iff.mp scanned
      have plain := Bool.eq_false_iff.mpr kept
      have same := (complete_of_lexeme? plain found position).1
      rw [List.cons_append, scan_lexeme plain (lexeme?_append plain found parted)]
      rw [same] at parted ⊢
      rw [ih following (parted.of_append lexeme.text), before_before, byteLength_append,
        Nat.add_assoc]
      rfl

/-- The tokens of texts that stand apart are those of the one and then of the other. -/
theorem tokenize_append {left right : String} {tokens : List Token}
    (tokenized : tokenize left = .ok tokens) (parted : Parted left.toList right.toList) :
    tokenize (left ++ right) =
      before tokens (shiftOutcome left.utf8ByteSize (tokenize right)) := by
  unfold tokenize
  rw [String.toList_append, scan_append tokenized parted, Nat.zero_add, ← utf8ByteSize_eq]
  exact congrArg (before tokens) (scan_shift left.utf8ByteSize 0 right.toList)

/-! ## Literals in a text -/

/-- The text of a string literal is one token. -/
theorem tokenize_literal (value : String) :
    tokenize (Literal.string value).text =
      .ok [⟨.string value, (Literal.string value).text, 0⟩] := by
  have cut := @scan_quoted value [] nofun 0
  rw [List.append_nil, scan] at cut
  exact cut

/-- **A literal stays a literal.** Between two texts that have tokens of their own and no quotes
next to it, the literal of a value is one string token with that value, whatever the value is. The
tokens before it are those of the text before it, and the tokens after it those of the text after
it. -/
theorem tokenize_around_literal (value left right : String) (leftTokens rightTokens : List Token)
    (tokenizedLeft : tokenize left = .ok leftTokens) (leftEnd : left.toList.getLast? ≠ some '\'')
    (tokenizedRight : tokenize right = .ok rightTokens)
    (rightStart : right.toList.head? ≠ some '\'') :
    tokenize (left ++ (Literal.string value).text ++ right) =
      .ok (leftTokens ++ ⟨.string value, (Literal.string value).text, left.utf8ByteSize⟩ ::
        rightTokens.map (shift (left ++ (Literal.string value).text).utf8ByteSize)) := by
  have opened : Parted left.toList (Literal.string value).text.toList := by
    rw [Literal.text, Text.quoteLiteral, String.toList_ofList]
    exact parted_of_starts_quote leftEnd _
  have closed : Parted (left ++ (Literal.string value).text).toList right.toList := by
    refine parted_of_ends_quote ?_ rightStart
    rw [Literal.text, String.toList_append, List.getLast?_append, getLast?_quoteLiteral,
      Option.some_or]
  have tokenized := tokenize_append tokenizedLeft opened
  rw [tokenize_literal] at tokenized
  rw [tokenize_append tokenized closed, tokenizedRight]
  exact congrArg Except.ok (List.append_assoc leftTokens [_] _)

/-- A literal with quotes that would end it, between a symbol and another one that could join. -/
theorem tokenize_around_literal_breakout :
    tokenize "naïve!" = .ok [⟨.word, "naïve", 0⟩, ⟨.symbol, "!", 6⟩] ∧
      tokenize "=(b" = .ok [⟨.symbol, "=", 0⟩, ⟨.leftParen, "(", 1⟩, ⟨.word, "b", 2⟩] ∧
      tokenize ("naïve!" ++ (Literal.string "' OR '1'='1").text ++ "=(b") =
        .ok [⟨.word, "naïve", 0⟩, ⟨.symbol, "!", 6⟩,
          ⟨.string "' OR '1'='1", "''' OR ''1''=''1'", 7⟩,
          ⟨.symbol, "=", 24⟩, ⟨.leftParen, "(", 25⟩, ⟨.word, "b", 26⟩] := by
  have left : tokenize "naïve!" = .ok [⟨.word, "naïve", 0⟩, ⟨.symbol, "!", 6⟩] := by
    decide +kernel
  have right : tokenize "=(b" = .ok [⟨.symbol, "=", 0⟩, ⟨.leftParen, "(", 1⟩, ⟨.word, "b", 2⟩] := by
    decide +kernel
  refine ⟨left, right, ?_⟩
  rw [tokenize_around_literal _ _ _ _ _ left (by decide) right (by decide)]
  exact congrArg Except.ok (by decide +kernel)

end RowQuery.Token
