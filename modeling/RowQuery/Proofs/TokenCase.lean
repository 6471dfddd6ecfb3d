import RowQuery.Proofs.LetterCase
import RowQuery.Proofs.TokenTiling

/-! # Tokens of texts that differ in letter case

Two texts are alike (`Text.Alike`) if they differ only in the case of the letters `A` to `Z`, and
only outside quoted strings. Such texts have the same tokens up to the case of their letters, at the
same positions, or the same string is never closed in both (`Token.tokenize_alike`).
-/

namespace RowQuery

namespace Text

/-- Whether some characters differ from others only in the case of the letters `A` to `Z`, and only
outside quoted strings. -/
inductive Alike : List Char → List Char → Prop where
  | nil : Alike [] []
  /-- A character outside strings, in either case. -/
  | outside {c d : Char} {rest other : List Char} (plain : c ≠ '\'')
      (same : c.toLower = d.toLower) (later : Alike rest other) : Alike (c :: rest) (d :: other)
  /-- A quoted string, which is the same in both. -/
  | string (value : String) {rest other : List Char} (ended : rest.head? ≠ some '\'')
      (later : Alike rest other) :
      Alike ((quoteLiteral value).toList ++ rest) ((quoteLiteral value).toList ++ other)
  /-- A quote that opens no string, so that all that follows is outside strings. -/
  | unclosed {rest other : List Char}
      (unquoted : ∀ value after, '\'' :: rest = (quoteLiteral value).toList ++ after →
        after.head? = some '\'')
      (same : rest.map Char.toLower = other.map Char.toLower) :
      Alike ('\'' :: rest) ('\'' :: other)

/-- Whether two texts differ only in the case of letters outside quoted strings. -/
def AlikeOutsideStrings (text other : String) : Prop := Alike text.toList other.toList

private theorem quoteLiteral_append (value : String) (rest : List Char) :
    (quoteLiteral value).toList ++ rest = '\'' :: (doubleQuotes value.toList ++ '\'' :: rest) := by
  unfold quoteLiteral
  rw [String.toList_ofList, List.append_assoc]
  rfl

namespace Alike

variable {text other : List Char}

/-- Texts that are alike are the same in lower case. -/
theorem map_toLower (alike : Alike text other) :
    text.map Char.toLower = other.map Char.toLower := by
  induction alike with
  | nil => rfl
  | outside plain same later ih => rw [List.map_cons, List.map_cons, same, ih]
  | string value ended later ih => rw [List.map_append, List.map_append, ih]
  | unclosed unquoted same => rw [List.map_cons, List.map_cons, same]

/-- Characters without quotes may be put before alike texts in either case. -/
theorem letters {part changed : List Char} (plain : part.all (· ≠ '\'') = true)
    (same : part.map Char.toLower = changed.map Char.toLower) (alike : Alike text other) :
    Alike (part ++ text) (changed ++ other) := by
  induction part generalizing changed with
  | nil =>
      cases List.map_eq_nil_iff.mp same.symm
      exact alike
  | cons c part ih =>
      rw [List.all_cons, Bool.and_eq_true] at plain
      obtain ⟨d, changed, rfl, first, others⟩ := List.map_eq_cons_iff.mp same.symm
      exact .outside (of_decide_eq_true plain.1) first.symm (ih plain.2 others.symm)

/-- Texts without quotes are alike if they differ only in case. -/
theorem of_letters (plain : text.all (· ≠ '\'') = true)
    (same : text.map Char.toLower = other.map Char.toLower) : Alike text other := by
  have alike := letters plain same .nil
  rwa [List.append_nil, List.append_nil] at alike

end Alike

end Text

namespace Token

open Text

/-! ## Classes of characters -/

private theorem isSeparator_toLower (c : Char) : isSeparator c.toLower = isSeparator c :=
  toLower_invariant (p := isSeparator) (by decide) c

private theorem isWordChar_toLower (c : Char) : isWordChar c.toLower = isWordChar c :=
  toLower_invariant (p := isWordChar) (by decide) c

private theorem utf8Size_toLower (c : Char) : c.toLower.utf8Size = c.utf8Size :=
  toLower_invariant (p := Char.utf8Size) (by decide) c

private theorem byteLength_map_toLower (text : List Char) :
    byteLength (text.map Char.toLower) = byteLength text := by
  induction text with
  | nil => rfl
  | cons c rest ih => rw [List.map_cons, byteLength, byteLength, utf8Size_toLower, ih]

/-- A character without case is the only one that is alike to it. -/
theorem eq_of_caseless {c d : Char} (plain : caseless c = true) (same : c.toLower = d.toLower) :
    d = c := by
  have unchanged : c.toLower = c := (toLower_eq_iff plain c).mpr rfl
  exact (toLower_eq_iff plain d).mp (same.symm.trans unchanged)

private theorem head?_of_map_toLower {text other : List Char} {c : Char} (plain : caseless c = true)
    (same : text.map Char.toLower = other.map Char.toLower) (first : text.head? = some c) :
    other.head? = some c := by
  obtain ⟨rest, rfl⟩ := List.head?_eq_some_iff.mp first
  obtain ⟨d, others, rfl, found, -⟩ := List.map_eq_cons_iff.mp same.symm
  rw [List.head?_cons, eq_of_caseless plain found.symm]

/-! ## Strings -/

/-- Whether a string is closed, and where, does not depend on the case of its letters. -/
theorem quoted?_map_toLower (input : List Char) :
    quoted? (input.map Char.toLower) = (quoted? input).map fun (value, after) =>
      (value.map Char.toLower, after.map Char.toLower) := by
  fun_induction quoted? input with
  | case1 => rfl
  | case2 rest ih =>
      change quoted? ('\'' :: '\'' :: rest.map Char.toLower) = _
      rw [quoted?, ih]
      cases quoted? rest <;> rfl
  | case3 rest single =>
      apply quoted?_of_closing
      intro quote
      have first := head?_of_map_toLower (by decide) (map_toLower_map_toLower rest) quote
      obtain ⟨after, rfl⟩ := List.head?_eq_some_iff.mp first
      exact single after rfl rfl
  | case4 c rest single differs ih =>
      have differs : c.toLower ≠ '\'' := fun same =>
        differs ((toLower_eq_iff (by decide) c).mp same)
      rw [List.map_cons, quoted?_of_other differs, ih]
      cases quoted? rest <;> rfl

private theorem quoted?_eq_none_of_unquoted {rest : List Char}
    (unquoted : ∀ value after, '\'' :: rest = (quoteLiteral value).toList ++ after →
      after.head? = some '\'') : quoted? rest = none := by
  cases closed : quoted? rest with
  | none => rfl
  | some parts =>
      obtain ⟨value, after⟩ := parts
      obtain ⟨same, ended⟩ := eq_doubleQuotes_of_quoted? closed
      refine absurd (unquoted (String.ofList value) after ?_) ended
      rw [quoteLiteral_append, String.toList_ofList, same]

/-! ## Single tokens -/

/-- Whether two tokens that are cut off are the same up to case, with alike texts after them. -/
structure Lexeme.Alike (lexeme other : Lexeme) : Prop where
  kind : lexeme.kind = other.kind
  text : lexeme.text.map Char.toLower = other.text.map Char.toLower
  rest : Text.Alike lexeme.rest other.rest

/-- What a text that is not empty is alike to. -/
theorem alike_cons {c : Char} {rest input : List Char} (alike : Alike (c :: rest) input) :
    (c ≠ '\'' ∧ ∃ d other, input = d :: other ∧ c.toLower = d.toLower ∧ Alike rest other) ∨
      c = '\'' ∧ ∃ other, input = '\'' :: other ∧
        Option.Rel Lexeme.Alike (lexeme? '\'' rest) (lexeme? '\'' other) := by
  -- A string is an append and no cons, so the text is taken apart only within the cases.
  generalize whole : c :: rest = text at alike
  cases alike with
  | nil => cases whole
  | outside plain same later =>
      cases whole
      exact .inl ⟨plain, _, _, rfl, same, later⟩
  | @string value after other ended later =>
      rw [quoteLiteral_append] at whole ⊢
      cases whole
      refine .inr ⟨rfl, _, rfl, ?_⟩
      have endedToo : other.head? ≠ some '\'' := fun first =>
        ended (head?_of_map_toLower (by decide) later.map_toLower.symm first)
      rw [lexeme?_quoted _ ended, lexeme?_quoted _ endedToo]
      exact .some ⟨rfl, rfl, later⟩
  | @unclosed after other unquoted same =>
      cases whole
      have missing := quoted?_eq_none_of_unquoted unquoted
      have missingToo : quoted? other = none := by
        have lowered := quoted?_map_toLower other
        rw [← same, quoted?_map_toLower, missing] at lowered
        exact Option.map_eq_none_iff.mp lowered.symm
      refine .inr ⟨rfl, other, rfl, ?_⟩
      unfold lexeme?
      rw [if_pos rfl, if_pos rfl, missing, missingToo]
      exact .none

private theorem takeWhile_isWordChar_map_toLower {text other : List Char}
    (same : text.map Char.toLower = other.map Char.toLower) :
    (text.takeWhile isWordChar).map Char.toLower =
      (other.takeWhile isWordChar).map Char.toLower := by
  have words : isWordChar ∘ Char.toLower = isWordChar := funext isWordChar_toLower
  have taken := congrArg (List.takeWhile isWordChar) same
  rwa [List.takeWhile_map, List.takeWhile_map, words] at taken

private theorem dropWhile_isWordChar_alike {text other : List Char} (alike : Alike text other) :
    Alike (text.dropWhile isWordChar) (other.dropWhile isWordChar) := by
  have quote : ¬isWordChar '\'' = true := by decide
  induction alike with
  | nil => exact .nil
  | @outside c d rest other plain same later ih =>
      rw [List.dropWhile_cons, List.dropWhile_cons, eq_of_toLower_eq isWordChar_toLower same]
      split
      · exact ih
      · exact .outside plain same later
  | @string value rest other ended later _ =>
      rw [quoteLiteral_append, quoteLiteral_append, List.dropWhile_cons_of_neg quote,
        List.dropWhile_cons_of_neg quote, ← quoteLiteral_append, ← quoteLiteral_append]
      exact .string value ended later
  | unclosed unquoted same =>
      rw [List.dropWhile_cons_of_neg quote, List.dropWhile_cons_of_neg quote]
      exact .unclosed unquoted same

/-- A comparison symbol takes an equality sign that follows it in both texts or in neither. -/
theorem lexeme?_alike_of_starts {c : Char} {rest other : List Char}
    (starts : c = '!' ∨ c = '>' ∨ c = '<') (later : Alike rest other) :
    Option.Rel Lexeme.Alike (lexeme? c rest) (lexeme? c other) := by
  rw [lexeme?_of_starts starts, lexeme?_of_starts starts]
  by_cases equal : rest.head? = some '='
  · obtain ⟨after, rfl⟩ := List.head?_eq_some_iff.mp equal
    obtain ⟨-, d, following, rfl, same, beyond⟩ | ⟨quote, -⟩ := alike_cons later
    · cases eq_of_caseless (by decide) same
      exact .some ⟨rfl, rfl, beyond⟩
    · exact absurd quote (by decide)
  · have equalToo : other.head? ≠ some '=' := fun first =>
      equal (head?_of_map_toLower (by decide) later.map_toLower.symm first)
    split
    · exact absurd rfl equal
    · split
      · exact absurd rfl equalToo
      · exact .some ⟨rfl, rfl, later⟩

/-- Texts that are alike start with lexemes that are alike, outside of strings. -/
theorem lexeme?_alike {c d : Char} {rest other : List Char} (kept : isSeparator c = false)
    (plain : c ≠ '\'') (same : c.toLower = d.toLower) (later : Alike rest other) :
    Option.Rel Lexeme.Alike (lexeme? c rest) (lexeme? d other) := by
  by_cases word : isWordChar c = true
  · have wordToo : isWordChar d = true := (eq_of_toLower_eq isWordChar_toLower same).trans word
    rw [lexeme?_of_isWordChar word, lexeme?_of_isWordChar wordToo]
    refine .some ⟨rfl, ?_, dropWhile_isWordChar_alike later⟩
    rw [List.map_cons, List.map_cons, same, takeWhile_isWordChar_map_toLower later.map_toLower]
  · obtain rfl | rfl | rfl | rfl | rfl | rfl | rfl :=
      punctuation_of_not_word kept (Bool.eq_false_iff.mpr word)
    all_goals cases eq_of_caseless (by decide) same
    · exact .some ⟨rfl, rfl, later⟩
    · exact .some ⟨rfl, rfl, later⟩
    · exact absurd rfl plain
    · exact lexeme?_alike_of_starts (.inl rfl) later
    · exact lexeme?_alike_of_starts (.inr (.inl rfl)) later
    · exact lexeme?_alike_of_starts (.inr (.inr rfl)) later
    · exact .some ⟨rfl, rfl, later⟩

/-- From alike texts tokens are cut off that are the same up to case. -/
theorem lexeme?_of_alike {c : Char} {rest input : List Char} (kept : isSeparator c = false)
    (alike : Alike (c :: rest) input) :
    ∃ d other, input = d :: other ∧ isSeparator d = false ∧
      Option.Rel Lexeme.Alike (lexeme? c rest) (lexeme? d other) := by
  obtain ⟨plain, d, other, rfl, same, later⟩ | ⟨rfl, other, rfl, cut⟩ := alike_cons alike
  · exact ⟨d, other, rfl, (eq_of_toLower_eq isSeparator_toLower same).trans kept,
      lexeme?_alike kept plain same later⟩
  · exact ⟨'\'', other, rfl, kept, cut⟩

/-! ## Whole texts -/

/-- A token with the letters of its text in lower case. -/
def foldCase (token : Token) : Token := { token with text := Text.foldCase token.text }

private theorem map_before (token : Token) (following : Except Unterminated (List Token)) :
    (before [token] following).map (List.map foldCase) =
      before [token.foldCase] (following.map (List.map foldCase)) := by
  cases following <;> rfl

private theorem foldCase_lexeme {kind : TokenKind} {text other : List Char} (position : Nat)
    (same : text.map Char.toLower = other.map Char.toLower) :
    foldCase ⟨kind, String.ofList text, position⟩ =
      foldCase ⟨kind, String.ofList other, position⟩ := by
  simp only [foldCase, Text.foldCase, String.toList_ofList, same]

/-- A token is cut off at the same place, and alike texts are left. -/
theorem scan_alike {text other : List Char} (alike : Alike text other) (position : Nat) :
    (scan position text).map (List.map foldCase) =
      (scan position other).map (List.map foldCase) := by
  -- The induction is on the scan, which goes on after a whole token, and not on the relation.
  fun_induction scan position text generalizing other with
  | case1 position =>
      cases List.map_eq_nil_iff.mp alike.map_toLower.symm
      rw [scan]
  | case2 position c rest divides ih =>
      obtain ⟨-, d, following, rfl, same, later⟩ | ⟨rfl, -⟩ := alike_cons alike
      · have dividesToo := (eq_of_toLower_eq isSeparator_toLower same).trans divides
        rw [ih later, scan_separator dividesToo, eq_of_toLower_eq utf8Size_toLower same]
      · cases divides
  | case3 position c rest kept missing =>
      have kept := Bool.eq_false_iff.mpr kept
      obtain ⟨d, following, rfl, keptToo, cut⟩ := lexeme?_of_alike kept alike
      rw [missing] at cut
      cases missingToo : lexeme? d following with
      | none => rw [scan_of_none keptToo missingToo]
      | some other =>
          rw [missingToo] at cut
          cases cut
  | case4 position c rest kept lexeme found shorter ih =>
      have kept := Bool.eq_false_iff.mpr kept
      obtain ⟨d, following, rfl, keptToo, cut⟩ := lexeme?_of_alike kept alike
      rw [found] at cut
      cases foundToo : lexeme? d following with
      | none =>
          rw [foundToo] at cut
          cases cut
      | some other =>
          rw [foundToo] at cut
          obtain ⟨kind, text, rest⟩ := Option.rel_some_some.mp cut
          have length : byteLength other.text = byteLength lexeme.text := by
            rw [← byteLength_map_toLower, ← text, byteLength_map_toLower]
          change (before [_] _).map _ = _
          rw [scan_lexeme keptToo foundToo, map_before, map_before, ih rest, kind, length,
            foldCase_lexeme position text]

/-- **Tokens of alike texts.** They are the same up to case and stand at the same positions, or a
string that starts at the same position is never closed. -/
theorem tokenize_alike {text other : String} (alike : AlikeOutsideStrings text other) :
    (tokenize text).map (List.map foldCase) = (tokenize other).map (List.map foldCase) :=
  scan_alike alike 0

end Token

end RowQuery
