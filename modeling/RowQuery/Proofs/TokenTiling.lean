import RowQuery.Proofs.TokenScan

/-! # Tilings of a text by tokens

In a tiling of a text, gaps of separators and tokens take turns, and no token could be longer or
start earlier (`Token.Tiles`). Scanning a text gives its tiling, and fails only if it has none
(`Token.scan_eq_ok_iff_tiles`).
-/

namespace RowQuery.Token

/-- The texts of symbols. -/
def symbolTexts : List String := ["=", "!", "<", ">", "!=", "<=", ">="]

/-- The symbols that an equality sign makes longer. -/
def openSymbols : List String := ["!", "<", ">"]

/-- Whether a token has the form of its class and cannot be longer, given what follows it. -/
def Complete (token : Token) (right : List Char) : Prop :=
  match token.kind with
  | .word => token.text.toList ≠ [] ∧ (∀ c ∈ token.text.toList, isWordChar c = true) ∧
      ∀ c ∈ right.head?, isWordChar c = false
  | .string value => token.text = Text.quoteLiteral value ∧ right.head? ≠ some '\''
  | .symbol => token.text ∈ symbolTexts ∧ (token.text ∈ openSymbols → right.head? ≠ some '=')
  | .leftParen => token.text = "("
  | .rightParen => token.text = ")"

/-- Whether a token, if it is a word, could not start any earlier, given what stands before it. -/
def Fresh (token : Token) (left : List Char) : Prop :=
  token.kind = .word → ∀ c ∈ left.getLast?, isWordChar c = false

/-- Whether some tokens, with gaps of separators around them, are the rest of a text. -/
def Tiles (left input : List Char) : List Token → Prop
  | [] => ∀ c ∈ input, isSeparator c = true
  | token :: others => ∃ gap right, input = gap ++ (token.text.toList ++ right) ∧
      (∀ c ∈ gap, isSeparator c = true) ∧ token.position = Text.byteLength (left ++ gap) ∧
      token.Fresh (left ++ gap) ∧ token.Complete right ∧
      Tiles (left ++ gap ++ token.text.toList) right others

/-! ## Symbols and parentheses -/

/-- A symbol is an equality sign, or one of three characters alone or with an equality sign. -/
theorem symbol_cases {text : String} (listed : text ∈ symbolTexts) :
    text.toList = ['='] ∨ ∃ c, (c = '!' ∨ c = '>' ∨ c = '<') ∧
      (text.toList = [c, '='] ∨ text.toList = [c] ∧ text ∈ openSymbols) := by
  simp only [symbolTexts, List.mem_cons, List.not_mem_nil, or_false] at listed
  rcases listed with rfl | rfl | rfl | rfl | rfl | rfl | rfl
  · exact .inl rfl
  · exact .inr ⟨'!', by decide, .inr ⟨rfl, by decide⟩⟩
  · exact .inr ⟨'<', by decide, .inr ⟨rfl, by decide⟩⟩
  · exact .inr ⟨'>', by decide, .inr ⟨rfl, by decide⟩⟩
  · exact .inr ⟨'!', by decide, .inl rfl⟩
  · exact .inr ⟨'<', by decide, .inl rfl⟩
  · exact .inr ⟨'>', by decide, .inl rfl⟩

/-- A symbol that can be followed by `=` is a single character. -/
theorem openSymbol_eq_singleton {text : String} (lone : text ∈ openSymbols) :
    ∃ c, (c = '!' ∨ c = '>' ∨ c = '<') ∧ text.toList = [c] := by
  simp only [openSymbols, List.mem_cons, List.not_mem_nil, or_false] at lone
  rcases lone with rfl | rfl | rfl
  · exact ⟨'!', .inl rfl, rfl⟩
  · exact ⟨'<', .inr (.inr rfl), rfl⟩
  · exact ⟨'>', .inr (.inl rfl), rfl⟩

/-- Symbols are made of four characters. -/
theorem mem_symbol {text : String} (listed : text ∈ symbolTexts) {c : Char}
    (member : c ∈ text.toList) : c = '=' ∨ c = '!' ∨ c = '>' ∨ c = '<' := by
  obtain same | ⟨d, starts, same | ⟨same, -⟩⟩ := symbol_cases listed
  · rw [same] at member
    exact .inl (List.mem_singleton.mp member)
  · rw [same] at member
    rcases List.mem_cons.mp member with rfl | equal
    · exact .inr starts
    · exact .inl (List.mem_singleton.mp equal)
  · rw [same] at member
    rw [List.mem_singleton.mp member]
    exact .inr starts

private theorem not_separator_of_starts {c : Char} (starts : c = '!' ∨ c = '>' ∨ c = '<') :
    isSeparator c = false := by
  rcases starts with rfl | rfl | rfl <;> decide

/-- The text of an opening parenthesis is that character. -/
theorem toList_of_eq_opening {text : String} (same : text = "(") : text.toList = ['('] := by
  rw [same]
  rfl

/-- The text of a closing parenthesis is that character. -/
theorem toList_of_eq_closing {text : String} (same : text = ")") : text.toList = [')'] := by
  rw [same]
  rfl

/-! ## Single tokens -/

/-- The rest of a closed string is its value with doubled quotes, and a quote that is not doubled.
-/
theorem eq_doubleQuotes_of_quoted? {input value right : List Char}
    (closed : quoted? input = some (value, right)) :
    input = Text.doubleQuotes value ++ '\'' :: right ∧ right.head? ≠ some '\'' := by
  fun_induction quoted? input generalizing value with
  | case1 => cases closed
  | case2 rest ih =>
      obtain ⟨⟨inner, after⟩, found, same⟩ := Option.map_eq_some_iff.mp closed
      cases same
      obtain ⟨rfl, ended⟩ := ih found
      exact ⟨rfl, ended⟩
  | case3 rest single =>
      cases closed
      refine ⟨rfl, fun quote => ?_⟩
      obtain ⟨after, rfl⟩ := List.head?_eq_some_iff.mp quote
      exact single after rfl rfl
  | case4 c rest single other ih =>
      obtain ⟨⟨inner, after⟩, found, same⟩ := Option.map_eq_some_iff.mp closed
      cases same
      obtain ⟨rfl, ended⟩ := ih found
      refine ⟨?_, ended⟩
      rw [Text.doubleQuotes, if_neg other]
      rfl

/-- A symbol takes an equality sign that follows it. -/
theorem complete_of_starts {c : Char} (starts : c = '!' ∨ c = '>' ∨ c = '<') {rest : List Char}
    {lexeme : Lexeme} (found : lexeme? c rest = some lexeme) (position : Nat) :
    c :: rest = lexeme.text ++ lexeme.rest ∧
      Complete ⟨lexeme.kind, String.ofList lexeme.text, position⟩ lexeme.rest := by
  rw [lexeme?_of_starts starts] at found
  split at found
  · cases found
    have listed : String.ofList [c, '='] ∈ symbolTexts ∧ String.ofList [c, '='] ∉ openSymbols := by
      rcases starts with rfl | rfl | rfl <;> decide
    exact ⟨rfl, listed.1, fun lone => absurd lone listed.2⟩
  · rename_i single
    cases found
    have listed : String.ofList [c] ∈ symbolTexts := by
      rcases starts with rfl | rfl | rfl <;> decide
    refine ⟨rfl, listed, fun _ equal => ?_⟩
    obtain ⟨after, same⟩ := List.head?_eq_some_iff.mp equal
    exact single after same

/-- The lexer cuts off a complete token, whose characters stand before what it leaves over. -/
theorem complete_of_lexeme? {c : Char} {rest : List Char} {lexeme : Lexeme}
    (kept : isSeparator c = false) (found : lexeme? c rest = some lexeme) (position : Nat) :
    c :: rest = lexeme.text ++ lexeme.rest ∧
      Complete ⟨lexeme.kind, String.ofList lexeme.text, position⟩ lexeme.rest := by
  by_cases word : isWordChar c = true
  · have run := word_of_lexeme? kept found
    rw [lexeme?_of_isWordChar word] at found
    cases found
    rw [← String.toList_ofList (l := c :: rest.takeWhile isWordChar)] at run
    refine ⟨congrArg (c :: ·) List.takeWhile_append_dropWhile.symm, (run rfl).1, (run rfl).2, ?_⟩
    intro d first
    have stopped := List.head?_dropWhile_not isWordChar rest
    rw [show (rest.dropWhile isWordChar).head? = some d from first] at stopped
    exact stopped
  · obtain rfl | rfl | rfl | starts | starts | starts | rfl :=
      punctuation_of_not_word kept (Bool.eq_false_iff.mpr word)
    · cases found
      exact ⟨rfl, rfl⟩
    · cases found
      exact ⟨rfl, rfl⟩
    · obtain ⟨⟨value, after⟩, closed, same⟩ := Option.map_eq_some_iff.mp found
      cases same
      obtain ⟨rfl, ended⟩ := eq_doubleQuotes_of_quoted? closed
      refine ⟨by simp, ?_, ended⟩
      rw [Text.quoteLiteral, String.toList_ofList]
    · exact complete_of_starts (.inl starts) found position
    · exact complete_of_starts (.inr (.inl starts)) found position
    · exact complete_of_starts (.inr (.inr starts)) found position
    · cases found
      have listed : "=" ∈ symbolTexts ∧ "=" ∉ openSymbols := by decide
      exact ⟨rfl, listed.1, fun lone => absurd lone listed.2⟩

/-- A complete token is the one that the lexer cuts off. -/
theorem lexeme?_of_complete {token : Token} {right : List Char} (complete : token.Complete right) :
    ∃ c others, token.text.toList = c :: others ∧ isSeparator c = false ∧
      lexeme? c (others ++ right) = some ⟨token.kind, token.text.toList, right⟩ := by
  obtain ⟨kind, text, position⟩ := token
  cases kind with
  | word =>
      obtain ⟨nonempty, all, ended⟩ := complete
      obtain ⟨c, others, same⟩ := List.exists_cons_of_ne_nil nonempty
      dsimp only at same all ⊢
      rw [same] at all ⊢
      exact ⟨c, others, rfl, (isWordChar_iff.mp (all c List.mem_cons_self)).1,
        lexeme?_word all ended⟩
  | string value =>
      obtain ⟨rfl, ended⟩ := complete
      have cut := lexeme?_quoted value.toList ended
      rw [String.ofList_toList] at cut
      refine ⟨'\'', Text.doubleQuotes value.toList ++ ['\''], String.toList_ofList, by decide, ?_⟩
      dsimp only [Text.quoteLiteral]
      rw [String.toList_ofList, List.append_assoc]
      exact cut
  | symbol =>
      obtain ⟨listed, lone⟩ := complete
      dsimp only at listed lone ⊢
      obtain same | ⟨c, starts, same | ⟨same, short⟩⟩ := symbol_cases listed
      · rw [same]
        exact ⟨'=', [], rfl, by decide, rfl⟩
      · rw [same]
        refine ⟨c, ['='], rfl, not_separator_of_starts starts, ?_⟩
        rw [lexeme?_of_starts starts]
        rfl
      · rw [same]
        refine ⟨c, [], rfl, not_separator_of_starts starts, ?_⟩
        rw [lexeme?_of_starts starts, List.nil_append]
        split
        · exact absurd rfl (lone short)
        · rfl
  | leftParen =>
      dsimp only
      rw [toList_of_eq_opening complete]
      exact ⟨'(', [], rfl, by decide, rfl⟩
  | rightParen =>
      dsimp only
      rw [toList_of_eq_closing complete]
      exact ⟨')', [], rfl, by decide, rfl⟩

/-! ## What tokens leave behind -/

/-- Whether no run of word characters reaches from one text into the next. -/
def Apart (left right : List Char) : Prop :=
  ∀ c ∈ left.getLast?, isWordChar c = true → ∀ d ∈ right.head?, isWordChar d = false

/-- What ends in another character than those of words is apart from all that follows. -/
theorem apart_of_getLast? {left : List Char} {d : Char} (last : left.getLast? = some d)
    (plain : isWordChar d = false) (right : List Char) : Apart left right := by
  intro c same word
  cases last.symm.trans same
  cases plain.symm.trans word

/-- A word ends before a character that makes up no word, and every other token ends in one. -/
theorem apart_of_complete {token : Token} {right : List Char} (complete : token.Complete right)
    (left : List Char) : Apart (left ++ token.text.toList) right := by
  have ends {d : Char} (last : token.text.toList.getLast? = some d)
      (plain : isWordChar d = false) : Apart (left ++ token.text.toList) right := by
    apply apart_of_getLast? _ plain
    rw [List.getLast?_append, last, Option.some_or]
  obtain ⟨kind, text, position⟩ := token
  cases kind with
  | word => exact fun _ _ _ => complete.2.2
  | string value =>
      obtain ⟨rfl, -⟩ := complete
      exact ends (getLast?_quoteLiteral value) (by decide)
  | symbol =>
      obtain same | ⟨c, starts, same | ⟨same, -⟩⟩ := symbol_cases complete.1
      · exact ends (d := '=') (congrArg List.getLast? same) (by decide)
      · exact ends (d := '=') (congrArg List.getLast? same) (by decide)
      · apply ends (congrArg List.getLast? same)
        rcases starts with rfl | rfl | rfl <;> decide
  | leftParen =>
      exact ends (congrArg List.getLast? (toList_of_eq_opening complete)) (by decide)
  | rightParen =>
      exact ends (congrArg List.getLast? (toList_of_eq_closing complete)) (by decide)

/-- A token that starts apart from what is before it is a fresh one. -/
theorem fresh_of_apart {token : Token} {left right : List Char} (complete : token.Complete right)
    (apart : Apart left (token.text.toList ++ right)) : token.Fresh left := by
  intro word c last
  by_cases reaches : isWordChar c = true
  · obtain ⟨d, others, spelled, -⟩ := lexeme?_of_complete complete
    have plain := apart c last reaches d (by rw [spelled]; rfl)
    unfold Complete at complete
    rw [word] at complete
    have inWord := complete.2.1 d (by rw [spelled]; exact List.mem_cons_self)
    cases plain.symm.trans inWord
  · exact Bool.eq_false_iff.mpr reaches

/-! ## Tilings from the left -/

private theorem tiles_nil_iff {left : List Char} {tokens : List Token} :
    Tiles left [] tokens ↔ tokens = [] := by
  cases tokens with
  | nil => exact iff_of_true nofun rfl
  | cons token others =>
      refine iff_of_false ?_ nofun
      rintro ⟨gap, right, empty, -, -, -, complete, -⟩
      obtain ⟨c, tail, spelled, -⟩ := lexeme?_of_complete complete
      simp [spelled] at empty

/-- A separator is not part of a tile. -/
theorem tiles_separator {c : Char} (divides : isSeparator c = true) (left rest : List Char)
    (tokens : List Token) : Tiles left (c :: rest) tokens ↔ Tiles (left ++ [c]) rest tokens := by
  cases tokens with
  | nil => simp only [Tiles, List.forall_mem_cons, divides, true_and]
  | cons token others =>
      constructor
      · rintro ⟨gap, right, same, gaps, tiled⟩
        cases gap with
        | nil =>
            -- No token starts with a separator.
            obtain ⟨d, tail, spelled, kept, -⟩ := lexeme?_of_complete tiled.2.2.1
            rw [spelled] at same
            cases same
            cases divides.symm.trans kept
        | cons d gap =>
            cases same
            refine ⟨gap, right, rfl, fun d member => gaps d (List.mem_cons_of_mem c member), ?_⟩
            rw [← List.append_cons left c gap]
            exact tiled
      · rintro ⟨gap, right, rfl, gaps, tiled⟩
        refine ⟨c :: gap, right, rfl, List.forall_mem_cons.mpr ⟨divides, gaps⟩, ?_⟩
        rw [List.append_cons left c gap]
        exact tiled

/-- A tiling of a text that does not start with a separator starts with the token that the lexer
cuts off. -/
theorem exists_lexeme_of_tiles {c : Char} (kept : isSeparator c = false) {left rest : List Char}
    {tokens : List Token} (tiled : Tiles left (c :: rest) tokens) :
    ∃ token others right, tokens = token :: others ∧ token.position = Text.byteLength left ∧
      lexeme? c rest = some ⟨token.kind, token.text.toList, right⟩ ∧
      Tiles (left ++ token.text.toList) right others := by
  cases tokens with
  | nil => cases kept.symm.trans (tiled c List.mem_cons_self)
  | cons token others =>
      obtain ⟨gap, right, same, gaps, tiled⟩ := tiled
      cases gap with
      | nil =>
          rw [List.append_nil] at tiled
          obtain ⟨position, -, complete, tiled⟩ := tiled
          obtain ⟨d, tail, spelled, -, found⟩ := lexeme?_of_complete complete
          rw [spelled] at same
          cases same
          exact ⟨token, others, right, rfl, position, found, tiled⟩
      | cons d gap =>
          cases same
          cases kept.symm.trans (gaps c List.mem_cons_self)

/-- The first tile is the lexeme that the text starts with. -/
theorem tiles_lexeme {c : Char} (kept : isSeparator c = false) {left rest : List Char}
    {lexeme : Lexeme} (found : lexeme? c rest = some lexeme) (apart : Apart left (c :: rest))
    (tokens : List Token) :
    Tiles left (c :: rest) tokens ↔ ∃ others, Tiles (left ++ lexeme.text) lexeme.rest others ∧
      tokens = ⟨lexeme.kind, String.ofList lexeme.text, Text.byteLength left⟩ :: others := by
  constructor
  · intro tiled
    obtain ⟨token, others, right, rfl, position, again, tiled⟩ := exists_lexeme_of_tiles kept tiled
    cases found.symm.trans again
    refine ⟨others, tiled, ?_⟩
    rw [String.ofList_toList, ← position]
  · rintro ⟨others, tiled, rfl⟩
    obtain ⟨same, complete⟩ := complete_of_lexeme? kept found (Text.byteLength left)
    have spelled : (String.ofList lexeme.text).toList = lexeme.text := String.toList_ofList
    refine ⟨[], lexeme.rest, ?_, nofun, ?_, ?_, complete, ?_⟩
    · rw [spelled]
      exact same
    · rw [List.append_nil]
    · rw [List.append_nil]
      apply fresh_of_apart complete
      rw [spelled, ← same]
      exact apart
    · rw [List.append_nil, spelled]
      exact tiled

/-- **Scanning gives the tiling.** The induction follows the scan; what it has passed is kept apart
from what follows, so that a word never starts in the middle of a run. -/
theorem scan_eq_ok_iff_tiles {left input : List Char} (apart : Apart left input)
    (tokens : List Token) :
    scan (Text.byteLength left) input = .ok tokens ↔ Tiles left input tokens := by
  generalize start : Text.byteLength left = position
  fun_induction scan position input generalizing left tokens with
  | case1 position =>
      rw [tiles_nil_iff, Except.ok.injEq]
      exact eq_comm
  | case2 position c rest divides ih =>
      rw [tiles_separator divides]
      apply ih
      · apply apart_of_getLast? List.getLast?_concat
        exact Bool.eq_false_iff.mpr fun word => by
          cases divides.symm.trans (isWordChar_iff.mp word).1
      · rw [byteLength_append, start]
        rfl
  | case3 position c rest kept missing =>
      refine iff_of_false (fun scanned => ?_) (fun tiled => ?_)
      · cases scanned
      · obtain ⟨token, others, right, -, -, found, -⟩ :=
          exists_lexeme_of_tiles (Bool.eq_false_iff.mpr kept) tiled
        cases missing.symm.trans found
  | case4 position c rest kept lexeme found shorter ih =>
      have plain := Bool.eq_false_iff.mpr kept
      have complete := (complete_of_lexeme? plain found position).2
      have apartRest := apart_of_complete complete left
      rw [String.toList_ofList] at apartRest
      rw [map_cons_eq_ok_iff, tiles_lexeme plain found apart, start]
      apply exists_congr
      intro others
      rw [ih apartRest others (by rw [byteLength_append, start])]

end RowQuery.Token
