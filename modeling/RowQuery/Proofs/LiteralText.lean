import RowQuery.Literal
import RowQuery.Proofs.ShortestDecimal
import RowQuery.Proofs.TokenScan

/-! # Literals read back

The text of a literal is one token, and that token stands for the literal again
(`Literal.scan_text`). Patterns that are not numbers all have the same text, so they read back as
one of them.
-/

namespace RowQuery

/-- A literal, with one pattern for all floats that are not numbers. -/
def Literal.identifyNaN : Literal → Literal
  | .float value => .float value.identifyNaN
  | literal => literal

namespace Token

/-- Whether a text is a nonempty run of word characters. -/
def IsRun (text : String) : Prop :=
  text.toList ≠ [] ∧ ∀ c ∈ text.toList, isWordChar c = true

instance (text : String) : Decidable (IsRun text) :=
  decidable_of_iff (text.toList ≠ [] ∧ text.toList.all isWordChar = true)
    (and_congr_right fun _ => List.all_eq_true)

private theorem mem_of_isDigit {c : Char} (digit : c.isDigit = true) :
    c ∈ ['0', '1', '2', '3', '4', '5', '6', '7', '8', '9'] := by
  have bounds := Char.isDigit_iff_toNat.mp digit
  have zero : '0'.toNat = 48 := rfl
  have nine : '9'.toNat = 57 := rfl
  have codes : c.toNat ∈ [48, 49, 50, 51, 52, 53, 54, 55, 56, 57] := by
    simp only [List.mem_cons, List.not_mem_nil, or_false]
    omega
  rw [← Char.ofNat_toNat c]
  exact List.mem_map_of_mem (f := Char.ofNat) codes

private theorem isWordChar_of_isDigit {c : Char} (digit : c.isDigit = true) :
    isWordChar c = true := by
  have all : ['0', '1', '2', '3', '4', '5', '6', '7', '8', '9'].all isWordChar = true := by decide
  exact List.all_eq_true.mp all c (mem_of_isDigit digit)

end Token

namespace Literal

/-- Whether a text starts the way numbers do. -/
def StartsNumber (text : List Char) : Prop :=
  ∃ c rest, text = c :: rest ∧ (c.isDigit = true ∨ c = '-')

/-- A text that starts the way numbers do is none of the words that stand for other values. -/
theorem unnamed_of_startsNumber {text : String} (starts : StartsNumber text.toList) :
    ¬Text.sameIgnoringCase text "true" = true ∧ ¬Text.sameIgnoringCase text "false" = true ∧
      ¬Text.sameIgnoringCase text "null" = true := by
  obtain ⟨c, rest, spelled, numeric⟩ := starts
  have letters : ['-', '0', '1', '2', '3', '4', '5', '6', '7', '8', '9'].all
      (fun d => d.toLower ∉ ['t', 'f', 'n']) = true := by decide
  have member : c ∈ ['-', '0', '1', '2', '3', '4', '5', '6', '7', '8', '9'] := by
    rcases numeric with digit | rfl
    · exact List.mem_cons_of_mem _ (Token.mem_of_isDigit digit)
    · exact List.mem_cons_self
  have unnamed := List.all_eq_true.mp letters c member
  simp only [decide_eq_true_eq, List.mem_cons, List.not_mem_nil, or_false, not_or] at unnamed
  obtain ⟨notTrue, notFalse, notNull⟩ := unnamed
  unfold Text.sameIgnoringCase
  simp only [spelled, List.map_cons, decide_eq_true_eq]
  exact ⟨fun same => notTrue (List.head_eq_of_cons_eq same),
    fun same => notFalse (List.head_eq_of_cons_eq same),
    fun same => notNull (List.head_eq_of_cons_eq same)⟩

private theorem startsNumber_intChars (number : Int) : StartsNumber (Text.intChars number) := by
  obtain ⟨c, rest, spelled⟩ : ∃ c rest, Text.intChars number = c :: rest := by
    unfold Text.intChars
    split
    · exact ⟨_, _, rfl⟩
    · exact List.exists_cons_of_ne_nil Nat.toDigits_ne_nil
  exact ⟨c, rest, spelled, Decimal.plain_of_mem_intChars (spelled ▸ List.mem_cons_self)⟩

/-- The text of an integer is read as that integer. -/
theorem ofWord?_integer (value : Int32) :
    ofWord? (Text.intText value.toInt) = some (.integer value) := by
  have spelled : (Text.intText value.toInt).toList = Text.intChars value.toInt :=
    String.toList_ofList
  obtain ⟨notTrue, notFalse, notNull⟩ :=
    unnamed_of_startsNumber (spelled ▸ startsNumber_intChars value.toInt)
  rw [ofWord?, if_neg notTrue, if_neg notFalse, if_neg notNull, spelled, readInt32?_intChars]

/-- The text of a truth value is read as that value. -/
theorem ofWord?_boolean (value : Bool) : ofWord? (boolText value) = some (.boolean value) := by
  cases value <;> decide

private theorem ofWord?_null : ofWord? "null" = some .null := by decide

/-- The text of a finite number starts the way numbers do, has no characters but those of words,
and is not a whole number. -/
theorem render_of_finite {x : Binary32} (finite : x.magnitude < Binary32.infinityPattern) :
    StartsNumber (x.render .literal).toList ∧
      (∀ c ∈ (x.render .literal).toList, Token.isWordChar c = true) ∧
      readInt32? (x.render .literal).toList = none := by
  have spelled := Binary32.spells_literalChars finite
  have plain : ∀ c ∈ x.bodyChars .literal, Token.isWordChar c = true := by
    intro c member
    rcases spelled.plain c member with digit | rfl | rfl | rfl
    · exact Token.isWordChar_of_isDigit digit
    · decide
    · decide
    · decide
  have marked : Numeral.onlyDigits? (x.bodyChars .literal) = none := by
    obtain ⟨c, member, other⟩ := spelled.marked
    unfold Numeral.onlyDigits?
    refine if_neg fun all => ?_
    rw [List.all_eq_true.mp all.2 c member] at other
    cases other
  rw [Binary32.render_of_finite .literal finite, String.toList_ofList]
  refine ⟨?_, ?_, ?_⟩
  · obtain ⟨c, rest, same, digit⟩ := spelled.starts
    cases x.isNegative with
    | true => exact ⟨'-', _, rfl, .inr rfl⟩
    | false => exact ⟨c, rest, same, .inl digit⟩
  · cases x.isNegative with
    | true =>
        intro c member
        rcases List.mem_cons.mp member with rfl | inBody
        · decide
        · exact plain c inBody
    | false => exact plain
  · simp only [readInt32?, Binary32.splitSign_signed x.isNegative spelled.starts, marked,
      Option.bind_none]

/-- **Floats as words.** The text of a float is one word, which reads as the float. -/
theorem ofWord?_float (x : Binary32) :
    Token.IsRun (x.render .literal) ∧
      ofWord? (x.render .literal) = some (.float x.identifyNaN) := by
  rcases x.isNaN_or_infinite_or_finite with absent | infinite | finite
  · have text : x.render .literal = "NaN" := by rw [Binary32.render, if_pos absent]; rfl
    rw [text, Binary32.identifyNaN, if_pos absent]
    exact ⟨by decide, by decide⟩
  · rw [infinite]
    cases x.isNegative <;> exact ⟨by decide, by decide⟩
  · obtain ⟨starts, plain, fractional⟩ := render_of_finite finite
    obtain ⟨notTrue, notFalse, notNull⟩ := unnamed_of_startsNumber starts
    obtain ⟨c, rest, spelled, -⟩ := starts
    refine ⟨⟨by rw [spelled]; exact List.cons_ne_nil _ _, plain⟩, ?_⟩
    rw [ofWord?, if_neg notTrue, if_neg notFalse, if_neg notNull, fractional,
      Binary32.read?_render]
    rfl

/-- A word that reads as a literal is cut off as one token for it. -/
theorem scan_of_word {text : String} {literal : Literal} (run : Token.IsRun text)
    (read : ofWord? text = some literal) (position : Nat) :
    ∃ token : Token, ofToken? token = some literal ∧
      ∀ rest, Token.Bounded rest → Token.scan position (text.toList ++ rest) =
        Token.before [token] (Token.scan (position + Text.byteLength text.toList) rest) := by
  have stands : ofToken? ⟨.word, text, position⟩ = ofWord? text := rfl
  refine ⟨⟨.word, text, position⟩, stands.trans read, fun rest bounded => ?_⟩
  rw [Token.scan_word run.1 run.2 bounded, String.ofList_toList]

private theorem isRun_intText (number : Int) : Token.IsRun (Text.intText number) := by
  unfold Token.IsRun Text.intText
  rw [String.toList_ofList]
  obtain ⟨c, rest, spelled, -⟩ := startsNumber_intChars number
  refine ⟨by rw [spelled]; exact List.cons_ne_nil _ _, fun c member => ?_⟩
  rcases Decimal.plain_of_mem_intChars member with digit | rfl
  · exact Token.isWordChar_of_isDigit digit
  · decide

private theorem isRun_boolText (value : Bool) : Token.IsRun (boolText value) := by
  cases value <;> decide

/-- **Literals read back.** The text of a literal is one token, which stands for the literal. -/
theorem scan_text (literal : Literal) (position : Nat) :
    ∃ token : Token, ofToken? token = some literal.identifyNaN ∧
      ∀ rest, Token.Bounded rest → Token.scan position (literal.text.toList ++ rest) =
        Token.before [token]
          (Token.scan (position + Text.byteLength literal.text.toList) rest) := by
  cases literal with
  | integer value =>
      rw [text, identifyNaN]
      · exact scan_of_word (isRun_intText value.toInt) (ofWord?_integer value) position
      · nofun
  | float value =>
      obtain ⟨run, read⟩ := ofWord?_float value
      rw [text, identifyNaN]
      exact scan_of_word run read position
  | string value =>
      refine ⟨⟨.string value, Text.quoteLiteral value, position⟩, rfl, fun rest bounded => ?_⟩
      exact Token.scan_quoted value bounded.head?_ne_quote position
  | null =>
      rw [text, identifyNaN]
      · exact scan_of_word (by decide) ofWord?_null position
      · nofun
  | boolean value =>
      rw [text, identifyNaN]
      · exact scan_of_word (isRun_boolText value) (ofWord?_boolean value) position
      · nofun

end Literal

end RowQuery
