import RowQuery.Token.Lexer

/-! # Tokens of a text

How single tokens are cut off the front of a text: words, operator symbols, quoted strings and
parentheses, each followed by a blank, a closing parenthesis or nothing. Conversely, a word that is
cut off is a nonempty run of word characters (`word_of_scan`).
-/

namespace RowQuery.Token

/-- Tokens put before the tokens of what follows them. -/
def before (tokens : List Token) (following : Except Unterminated (List Token)) :
    Except Unterminated (List Token) :=
  following.map (tokens ++ ·)

/-- Nothing before an outcome is the outcome. -/
theorem before_nil (following : Except Unterminated (List Token)) :
    before [] following = following := by
  cases following <;> rfl

/-- Tokens before tokens are before an outcome together. -/
theorem before_before (first second : List Token) (following : Except Unterminated (List Token)) :
    before first (before second following) = before (first ++ second) following := by
  cases following with
  | error unterminated => rfl
  | ok tokens => exact congrArg Except.ok (List.append_assoc first second tokens).symm

/-- A token is in front of an outcome if that has come to tokens. -/
theorem map_cons_eq_ok_iff {token : Token} {following : Except Unterminated (List Token)}
    {tokens : List Token} : following.map (token :: ·) = .ok tokens ↔
      ∃ others, following = .ok others ∧ tokens = token :: others := by
  cases following with
  | error unterminated => exact iff_of_false nofun nofun
  | ok others =>
      constructor
      · intro same
        exact ⟨others, rfl, (Except.ok.inj same).symm⟩
      · rintro ⟨-, ⟨⟩, rfl⟩
        rfl

/-- A token in front of a failure leaves the failure. -/
theorem map_cons_eq_error_iff {token : Token} {following : Except Unterminated (List Token)}
    {failure : Unterminated} :
    following.map (token :: ·) = .error failure ↔ following = .error failure := by
  cases following with
  | error other => rfl
  | ok others => exact iff_of_false nofun nofun

/-- Whether a text starts with a character that ends whatever token stands before it. -/
def Bounded (rest : List Char) : Prop := ∀ c ∈ rest.head?, c = ' ' ∨ c = ')'

/-- A word ends at the end of the text. -/
theorem bounded_nil : Bounded [] := nofun

/-- A word ends at a blank. -/
theorem bounded_blank (rest : List Char) : Bounded (' ' :: rest) := by
  rintro c ⟨⟩
  exact .inl rfl

/-- A word ends at a closing parenthesis. -/
theorem bounded_closing (rest : List Char) : Bounded (')' :: rest) := by
  rintro c ⟨⟩
  exact .inr rfl

/-- Bytes are counted part by part. -/
theorem byteLength_append (left right : List Char) :
    Text.byteLength (left ++ right) = Text.byteLength left + Text.byteLength right := by
  induction left with
  | nil => exact (Nat.zero_add _).symm
  | cons c left ih => rw [List.cons_append, Text.byteLength, Text.byteLength, ih, Nat.add_assoc]

/-- A separator is skipped. -/
theorem scan_separator {c : Char} (divides : isSeparator c = true) (position : Nat)
    (rest : List Char) : scan position (c :: rest) = scan (position + c.utf8Size) rest := by
  rw [scan, if_pos divides]

/-- A lexeme becomes a token, and what follows it is scanned. -/
theorem scan_lexeme {c : Char} {rest : List Char} {lexeme : Lexeme}
    (kept : isSeparator c = false) (found : lexeme? c rest = some lexeme) (position : Nat) :
    scan position (c :: rest) =
      before [⟨lexeme.kind, String.ofList lexeme.text, position⟩]
        (scan (position + Text.byteLength lexeme.text) lexeme.rest) := by
  rw [scan, if_neg (by rw [kept]; exact Bool.false_ne_true)]
  split
  · rename_i missing
    cases found.symm.trans missing
  · rename_i other same
    cases found.symm.trans same
    rfl

/-- Where no token starts, scanning fails. -/
theorem scan_of_none {c : Char} {rest : List Char} (kept : isSeparator c = false)
    (missing : lexeme? c rest = none) (position : Nat) :
    scan position (c :: rest) = .error ⟨position⟩ := by
  rw [scan, if_neg (by rw [kept]; exact Bool.false_ne_true)]
  split
  · rfl
  · rename_i found
    cases missing.symm.trans found

/-! ## Words -/

/-- Word characters are none of those that the lexer treats in another way. -/
theorem isWordChar_iff {c : Char} : isWordChar c = true ↔
    isSeparator c = false ∧ c ≠ '(' ∧ c ≠ ')' ∧ c ≠ '\'' ∧ c ≠ '!' ∧ c ≠ '>' ∧ c ≠ '<' ∧
      c ≠ '=' := by
  simp only [isWordChar, Bool.not_eq_true', Bool.or_eq_false_iff, decide_eq_false_iff_not,
    and_assoc, ne_eq]

/-- A character that is kept and makes up no word starts a token of another class. -/
theorem punctuation_of_not_word {c : Char} (kept : isSeparator c = false)
    (other : isWordChar c = false) :
    c = '(' ∨ c = ')' ∨ c = '\'' ∨ c = '!' ∨ c = '>' ∨ c = '<' ∨ c = '=' := by
  simpa only [isWordChar, kept, Bool.false_or, Bool.not_eq_false', Bool.or_eq_true,
    decide_eq_true_eq, or_assoc] using other

/-- A word goes as far as there are characters of words. -/
theorem lexeme?_of_isWordChar {c : Char} (word : isWordChar c = true) (rest : List Char) :
    lexeme? c rest = some ⟨.word, c :: rest.takeWhile isWordChar, rest.dropWhile isWordChar⟩ := by
  obtain ⟨-, opening, closing, quote, bang, greater, less, equal⟩ := isWordChar_iff.mp word
  simp only [lexeme?, opening, closing, quote, bang, greater, less, equal, decide_false,
    Bool.or_self, Bool.false_eq_true, ↓reduceIte]

/-- A word ends where no word character follows it. -/
theorem lexeme?_word {c : Char} {others right : List Char}
    (all : ∀ d ∈ c :: others, isWordChar d = true)
    (ended : ∀ d ∈ right.head?, isWordChar d = false) :
    lexeme? c (others ++ right) = some ⟨.word, c :: others, right⟩ := by
  have run : ∀ d ∈ others, isWordChar d = true := fun d member =>
    all d (List.mem_cons_of_mem c member)
  have stops : right.takeWhile isWordChar = [] ∧ right.dropWhile isWordChar = right := by
    cases right with
    | nil => exact ⟨rfl, rfl⟩
    | cons d right =>
        have plain : ¬isWordChar d = true := Bool.eq_false_iff.mp (ended d rfl)
        exact ⟨List.takeWhile_cons_of_neg plain, List.dropWhile_cons_of_neg plain⟩
  rw [lexeme?_of_isWordChar (all c List.mem_cons_self), List.takeWhile_append_of_pos run,
    List.dropWhile_append_of_pos run, stops.1, stops.2, List.append_nil]

private theorem Bounded.head?_not_word {rest : List Char} (bounded : Bounded rest) :
    ∀ c ∈ rest.head?, isWordChar c = false := by
  intro c first
  rcases bounded c first with rfl | rfl <;> decide

/-- A word that ends is scanned as one token. -/
theorem scan_word {word rest : List Char} (nonempty : word ≠ [])
    (all : ∀ c ∈ word, isWordChar c = true) (bounded : Bounded rest) (position : Nat) :
    scan position (word ++ rest) =
      before [⟨.word, String.ofList word, position⟩]
        (scan (position + Text.byteLength word) rest) := by
  obtain ⟨c, others, rfl⟩ := List.exists_cons_of_ne_nil nonempty
  have first := all c List.mem_cons_self
  exact scan_lexeme (isWordChar_iff.mp first).1 (lexeme?_word all bounded.head?_not_word) position

/-! ## Strings -/

/-- No quote follows the end of a word. -/
theorem Bounded.head?_ne_quote {rest : List Char} (bounded : Bounded rest) :
    rest.head? ≠ some '\'' := by
  intro quote
  rcases bounded '\'' quote with blank | closing
  · exact absurd blank (by decide)
  · exact absurd closing (by decide)

/-- A string literal ends in a quote. -/
theorem getLast?_quoteLiteral (value : String) :
    (Text.quoteLiteral value).toList.getLast? = some '\'' := by
  rw [Text.quoteLiteral, String.toList_ofList, List.getLast?_append]
  rfl

/-- A quote that is not doubled closes a string. -/
theorem quoted?_of_closing {rest : List Char} (ended : rest.head? ≠ some '\'') :
    quoted? ('\'' :: rest) = some ([], rest) := by
  rw [quoted?]
  · rw [if_pos rfl]
  · rintro after - rfl
    exact ended rfl

/-- Other characters belong to the string. -/
theorem quoted?_of_other {c : Char} (other : c ≠ '\'') (rest : List Char) :
    quoted? (c :: rest) = (quoted? rest).map fun (value, after) => (c :: value, after) := by
  rw [quoted?]
  · rw [if_neg other]
  · rintro after quote
    exact absurd quote other

/-- A text with its quotes doubled stands for the text, up to the quote that closes it. -/
theorem quoted?_doubleQuotes {rest : List Char} (ended : rest.head? ≠ some '\'') :
    ∀ value : List Char, quoted? (Text.doubleQuotes value ++ '\'' :: rest) = some (value, rest)
  | [] => quoted?_of_closing ended
  | c :: value => by
      have inner := quoted?_doubleQuotes ended value
      rw [Text.doubleQuotes]
      split
      · rename_i quote
        subst quote
        rw [List.cons_append, List.cons_append, quoted?, inner]
        rfl
      · rename_i other
        rw [List.cons_append, quoted?_of_other other, inner]
        rfl

/-- A string literal is one lexeme with its value. -/
theorem lexeme?_quoted (value : List Char) {right : List Char}
    (ended : right.head? ≠ some '\'') :
    lexeme? '\'' (Text.doubleQuotes value ++ ('\'' :: right)) =
      some ⟨.string (String.ofList value), '\'' :: Text.doubleQuotes value ++ ['\''], right⟩ := by
  unfold lexeme?
  rw [if_pos rfl, quoted?_doubleQuotes ended]
  rfl

/-- A string literal is scanned as one token with its value. -/
theorem scan_quoted (value : String) {rest : List Char} (ended : rest.head? ≠ some '\'')
    (position : Nat) :
    scan position ((Text.quoteLiteral value).toList ++ rest) =
      before [⟨.string value, Text.quoteLiteral value, position⟩]
        (scan (position + Text.byteLength (Text.quoteLiteral value).toList) rest) := by
  have cut := lexeme?_quoted value.toList ended
  rw [String.ofList_toList] at cut
  rw [Text.quoteLiteral, String.toList_ofList, List.append_assoc, List.cons_append,
    List.singleton_append]
  exact scan_lexeme (by decide) cut position

/-! ## Parentheses and symbols -/

/-- An opening parenthesis is a token. -/
theorem scan_opening (position : Nat) (rest : List Char) :
    scan position ('(' :: rest) =
      before [⟨.leftParen, "(", position⟩] (scan (position + 1) rest) := by
  have found : lexeme? '(' rest = some ⟨.leftParen, ['('], rest⟩ := rfl
  exact scan_lexeme (by decide) found position

/-- A closing parenthesis is a token. -/
theorem scan_closing (position : Nat) (rest : List Char) :
    scan position (')' :: rest) =
      before [⟨.rightParen, ")", position⟩] (scan (position + 1) rest) := by
  have found : lexeme? ')' rest = some ⟨.rightParen, [')'], rest⟩ := rfl
  exact scan_lexeme (by decide) found position

/-- A blank is skipped. -/
theorem scan_blank (position : Nat) (rest : List Char) :
    scan position (' ' :: rest) = scan (position + 1) rest :=
  scan_separator (by decide) position rest

/-- A symbol that can be followed by `=` takes it along. -/
theorem lexeme?_of_starts {c : Char} (starts : c = '!' ∨ c = '>' ∨ c = '<') (rest : List Char) :
    lexeme? c rest = match rest with
      | '=' :: after => some ⟨.symbol, [c, '='], after⟩
      | _ => some ⟨.symbol, [c], rest⟩ := by
  rcases starts with rfl | rfl | rfl <;> rfl

/-! ## What words are made of -/

private theorem kind_of_symbol {c : Char} {rest : List Char} {lexeme : Lexeme}
    (starts : c = '!' ∨ c = '>' ∨ c = '<') (found : lexeme? c rest = some lexeme) :
    lexeme.kind = .symbol := by
  rw [lexeme?_of_starts starts] at found
  split at found <;> cases found <;> rfl

/-- A lexeme that is a word has characters of words only. -/
theorem word_of_lexeme? {c : Char} {rest : List Char} {lexeme : Lexeme}
    (kept : isSeparator c = false) (found : lexeme? c rest = some lexeme)
    (word : lexeme.kind = .word) :
    lexeme.text ≠ [] ∧ ∀ d ∈ lexeme.text, isWordChar d = true := by
  by_cases first : isWordChar c = true
  · rw [lexeme?_of_isWordChar first] at found
    cases found
    refine ⟨List.cons_ne_nil _ _, fun d member => ?_⟩
    rcases List.mem_cons.mp member with rfl | inRun
    · exact first
    · exact List.all_eq_true.mp List.all_takeWhile d inRun
  · obtain rfl | rfl | rfl | rfl | rfl | rfl | rfl :=
      punctuation_of_not_word kept (Bool.eq_false_iff.mpr first)
    · cases found
      cases word
    · cases found
      cases word
    · obtain ⟨parts, -, rfl⟩ := Option.map_eq_some_iff.mp found
      cases word
    · cases (kind_of_symbol (.inl rfl) found).symm.trans word
    · cases (kind_of_symbol (.inr (.inl rfl)) found).symm.trans word
    · cases (kind_of_symbol (.inr (.inr rfl)) found).symm.trans word
    · cases found
      cases word

/-- **Words are runs of word characters.** -/
theorem word_of_scan {position : Nat} {input : List Char} {tokens : List Token}
    (scanned : scan position input = .ok tokens) : ∀ token ∈ tokens, token.kind = .word →
      token.text.toList ≠ [] ∧ ∀ c ∈ token.text.toList, isWordChar c = true := by
  fun_induction scan position input generalizing tokens with
  | case1 =>
      cases scanned
      nofun
  | case2 position c rest divides ih => exact ih scanned
  | case3 position c rest kept missing => cases scanned
  | case4 position c rest kept lexeme found shorter ih =>
      obtain ⟨others, following, rfl⟩ := map_cons_eq_ok_iff.mp scanned
      intro token member word
      rcases List.mem_cons.mp member with rfl | later
      · rw [String.toList_ofList]
        exact word_of_lexeme? (Bool.eq_false_iff.mpr kept) found word
      · exact ih following token later word

end RowQuery.Token
