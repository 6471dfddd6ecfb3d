import Mathlib.Data.List.Basic
import RowQuery.Proofs.TokenTiling

/-! # Segmentations of a text

A segmentation of a text is a list of tokens that says by byte offsets which piece of the text each
token is, such that each is as long as it can be and nothing but separators is left out
(`Token.Segments`). The tokens of a text are its only segmentation (`Token.tokenize_segments`).

The byte offsets of a segmentation fix where each of its gaps ends, so it is a tiling
(`Token.segmentsRest_iff_tiles`), and scanning a text gives its tiling.
-/

namespace RowQuery.Token

/-- The byte offset at which a token ends. -/
def stop (token : Token) : Nat := token.position + Text.byteLength token.text.toList

/-- Whether the byte at an offset belongs to a token. -/
def Covers (token : Token) (offset : Nat) : Prop := token.position ≤ offset ∧ offset < token.stop

/-- Whether some tokens are a segmentation of a text. -/
structure Segments (text : String) (tokens : List Token) : Prop where
  /-- The tokens come in order and do not overlap. -/
  ordered : tokens.Pairwise fun first second =>
    first.position < second.position ∧ first.stop ≤ second.position
  /-- Each token is the piece of the text at its position, and is as long as it can be. -/
  placed : ∀ token ∈ tokens, ∃ left right, text.toList = left ++ (token.text.toList ++ right) ∧
    token.position = Text.byteLength left ∧ token.Fresh left ∧ token.Complete right
  /-- A character that no token covers is a separator. -/
  skipped : ∀ left c right, text.toList = left ++ c :: right →
    (∀ token ∈ tokens, ¬token.Covers (Text.byteLength left)) → isSeparator c = true
  /-- A parenthesis that no string covers is a token by itself. -/
  parentheses : ∀ left c right kind, text.toList = left ++ c :: right →
    (c = '(' ∧ kind = .leftParen ∨ c = ')' ∧ kind = .rightParen) →
    (∀ token ∈ tokens, ∀ value, token.kind = .string value →
      ¬token.Covers (Text.byteLength left)) →
    ⟨kind, String.singleton c, Text.byteLength left⟩ ∈ tokens

/-! ## Byte offsets -/

private theorem eq_nil_of_byteLength {text : List Char} (empty : Text.byteLength text = 0) :
    text = [] := by
  cases text with
  | nil => rfl
  | cons c rest =>
      have positive := c.utf8Size_pos
      rw [Text.byteLength] at empty
      omega

/-- Of two splits of a text, the one at the smaller byte offset comes first. -/
theorem split_le {left right before after : List Char} (same : left ++ right = before ++ after)
    (le : Text.byteLength left ≤ Text.byteLength before) :
    ∃ gap, before = left ++ gap ∧ right = gap ++ after := by
  rcases List.append_eq_append_iff.mp same with ahead | ⟨back, rfl, rfl⟩
  · exact ahead
  · rw [byteLength_append] at le
    obtain rfl : back = [] := eq_nil_of_byteLength (by omega)
    exact ⟨[], by simp, rfl⟩

/-- A character of two texts in a row belongs to the first or to the second. -/
theorem split_cons {left right before after : List Char} {c : Char}
    (same : left ++ right = before ++ c :: after) :
    (∃ back, left = before ++ c :: back) ∨
      ∃ front, before = left ++ front ∧ right = front ++ c :: after := by
  rcases List.append_eq_append_iff.mp same with later | ⟨back, rfl, rest⟩
  · exact .inr later
  · cases back with
    | nil => exact .inr ⟨[], by simp, rest.symm⟩
    | cons d back =>
        cases rest
        exact .inl ⟨back, rfl⟩

/-- A token has at least one byte. -/
theorem position_lt_stop {token : Token} {right : List Char} (complete : token.Complete right) :
    token.position < token.stop := by
  obtain ⟨c, others, spelled, -⟩ := lexeme?_of_complete complete
  have size := c.utf8Size_pos
  unfold stop
  rw [spelled, Text.byteLength]
  omega

private theorem stop_eq {token : Token} {left : List Char}
    (position : token.position = Text.byteLength left) :
    token.stop = Text.byteLength (left ++ token.text.toList) := by
  rw [byteLength_append, ← position]
  rfl

/-- A character at a covered offset is one of the token's. -/
theorem split_of_covers {token : Token} {before right left after : List Char} {c : Char}
    (same : before ++ (token.text.toList ++ right) = left ++ c :: after)
    (position : token.position = Text.byteLength before)
    (covered : token.Covers (Text.byteLength left)) :
    ∃ front back, token.text.toList = front ++ c :: back ∧ left = before ++ front := by
  obtain ⟨front, rfl, rest⟩ := split_le same (position ▸ covered.1)
  rcases split_cons rest with ⟨back, spelled⟩ | ⟨beyond, rfl, -⟩
  · exact ⟨front, back, spelled, rfl⟩
  · have inside := covered.2
    rw [stop_eq position, ← List.append_assoc, byteLength_append _ beyond] at inside
    omega

private theorem covers_of_split {token : Token} {left front back : List Char} {c : Char}
    (spelled : token.text.toList = front ++ c :: back)
    (position : token.position = Text.byteLength left) :
    token.Covers (Text.byteLength (left ++ front)) := by
  have size := c.utf8Size_pos
  unfold Covers
  rw [stop_eq position, position, spelled]
  simp only [byteLength_append, Text.byteLength]
  omega

/-! ## Segmentations are tilings -/

/-- A segmentation of the rest of a text, the part before it being done. -/
structure SegmentsRest (left input : List Char) (tokens : List Token) : Prop where
  ordered : tokens.Pairwise fun first second =>
    first.position < second.position ∧ first.stop ≤ second.position
  later : ∀ token ∈ tokens, Text.byteLength left ≤ token.position
  placed : ∀ token ∈ tokens, ∃ before right,
    left ++ input = before ++ (token.text.toList ++ right) ∧
      token.position = Text.byteLength before ∧ token.Fresh before ∧ token.Complete right
  skipped : ∀ before c right, input = before ++ c :: right →
    (∀ token ∈ tokens, ¬token.Covers (Text.byteLength (left ++ before))) → isSeparator c = true

private theorem segmentsRest_nil_iff {left input : List Char} :
    SegmentsRest left input [] ↔ ∀ c ∈ input, isSeparator c = true := by
  constructor
  · intro segments c member
    obtain ⟨before, right, same⟩ := List.append_of_mem member
    exact segments.skipped before c right same nofun
  · intro gaps
    refine ⟨List.Pairwise.nil, nofun, nofun, ?_⟩
    rintro before c right rfl -
    exact gaps c (by simp)

section Step

variable {left : List Char} {token : Token} {others : List Token}

/-- Up to the first token of a segmentation there are separators, and after it the other tokens
segment what is left. -/
theorem SegmentsRest.step {input : List Char}
    (segments : SegmentsRest left input (token :: others)) :
    ∃ gap right, input = gap ++ (token.text.toList ++ right) ∧
      (∀ c ∈ gap, isSeparator c = true) ∧ token.position = Text.byteLength (left ++ gap) ∧
      token.Fresh (left ++ gap) ∧ token.Complete right ∧
      SegmentsRest (left ++ gap ++ token.text.toList) right others := by
  obtain ⟨ahead, ordered⟩ := List.pairwise_cons.mp segments.ordered
  obtain ⟨before, right, same, position, fresh, complete⟩ :=
    segments.placed token List.mem_cons_self
  have start := segments.later token List.mem_cons_self
  obtain ⟨gap, rfl, rfl⟩ := split_le same (position ▸ start)
  refine ⟨gap, right, rfl, ?_, position, fresh, complete, ordered, ?_, ?_, ?_⟩
  · -- Every token starts at the end of the gap or later, so none covers a character of the gap.
    intro c member
    obtain ⟨front, back, rfl⟩ := List.append_of_mem member
    apply segments.skipped front c (back ++ (token.text.toList ++ right)) (by simp)
    have inside : Text.byteLength (left ++ front) < token.position := by
      have size := c.utf8Size_pos
      rw [position, ← List.append_assoc, byteLength_append (left ++ front), Text.byteLength]
      omega
    intro other listed covered
    have reached := covered.1
    rcases List.mem_cons.mp listed with rfl | listed
    · omega
    · have after := (ahead other listed).1
      omega
  · intro other listed
    rw [← stop_eq position]
    exact (ahead other listed).2
  · intro other listed
    have found := segments.placed other (List.mem_cons_of_mem token listed)
    simpa only [List.append_assoc] using found
  · intro front c back found uncovered
    apply segments.skipped (gap ++ (token.text.toList ++ front)) c back (by simp [found])
    have moved : left ++ (gap ++ (token.text.toList ++ front)) =
        left ++ gap ++ token.text.toList ++ front := by simp
    rw [moved]
    intro other listed
    rcases List.mem_cons.mp listed with rfl | listed
    · intro covered
      have ended := covered.2
      rw [stop_eq position, byteLength_append _ front] at ended
      omega
    · exact uncovered other listed

/-- A gap and a complete token before a segmentation extend it. -/
theorem SegmentsRest.cons {gap right : List Char} (gaps : ∀ c ∈ gap, isSeparator c = true)
    (position : token.position = Text.byteLength (left ++ gap)) (fresh : token.Fresh (left ++ gap))
    (complete : token.Complete right)
    (rest : SegmentsRest (left ++ gap ++ token.text.toList) right others) :
    SegmentsRest left (gap ++ (token.text.toList ++ right)) (token :: others) := by
  have nonempty := position_lt_stop complete
  have after (other : Token) (listed : other ∈ others) : token.stop ≤ other.position :=
    stop_eq position ▸ rest.later other listed
  refine ⟨List.pairwise_cons.mpr ⟨?_, rest.ordered⟩, ?_, ?_, ?_⟩
  · intro other listed
    have stopped := after other listed
    omega
  · have start : Text.byteLength left ≤ token.position := by
      rw [position, byteLength_append]
      omega
    intro other listed
    rcases List.mem_cons.mp listed with rfl | listed
    · exact start
    · have stopped := after other listed
      omega
  · intro other listed
    rcases List.mem_cons.mp listed with rfl | listed
    · exact ⟨left ++ gap, right, by simp, position, fresh, complete⟩
    · simpa only [List.append_assoc] using rest.placed other listed
  · intro before c back found uncovered
    -- The character stands in the gap, in the token or after both.
    rcases split_cons found with ⟨inGap, rfl⟩ | ⟨beyond, rfl, past⟩
    · exact gaps c (by simp)
    rcases split_cons past with ⟨inToken, spelled⟩ | ⟨front, rfl, behind⟩
    · refine absurd ?_ (uncovered token List.mem_cons_self)
      rw [← List.append_assoc]
      exact covers_of_split spelled position
    · apply rest.skipped front c back behind
      have moved : left ++ gap ++ token.text.toList ++ front =
          left ++ (gap ++ (token.text.toList ++ front)) := by simp
      rw [moved]
      intro other listed
      exact uncovered other (List.mem_cons_of_mem token listed)

end Step

/-- Segments are tiles, seen from the whole text. -/
theorem segmentsRest_iff_tiles {left input : List Char} {tokens : List Token} :
    SegmentsRest left input tokens ↔ Tiles left input tokens := by
  induction tokens generalizing left input with
  | nil => exact segmentsRest_nil_iff
  | cons token others ih =>
      constructor
      · intro segments
        obtain ⟨gap, right, same, gaps, position, fresh, complete, rest⟩ := segments.step
        exact ⟨gap, right, same, gaps, position, fresh, complete, ih.mp rest⟩
      · rintro ⟨gap, right, rfl, gaps, position, fresh, complete, tiled⟩
        exact .cons gaps position fresh complete (ih.mpr tiled)

/-! ## Parentheses -/

/-- A character other than a separator is covered by a token. -/
theorem SegmentsRest.exists_covers {left input : List Char} {tokens : List Token}
    (segments : SegmentsRest left input tokens) {before right : List Char} {c : Char}
    (kept : isSeparator c = false) (found : input = before ++ c :: right) :
    ∃ token ∈ tokens, token.Covers (Text.byteLength (left ++ before)) := by
  by_contra uncovered
  have divides := segments.skipped before c right found fun token listed covers =>
    uncovered ⟨token, listed, covers⟩
  cases kept.symm.trans divides

private theorem eq_of_singleton_eq_append {d c : Char} {front back : List Char}
    (same : [d] = front ++ c :: back) : front = [] ∧ d = c := by
  cases front with
  | nil =>
      cases same
      exact ⟨rfl, rfl⟩
  | cons e front =>
      have rest := (List.cons.inj same).2
      simp at rest

/-- Outside strings a parenthesis is all there is to its token. -/
theorem eq_of_parenthesis {token : Token} {right front back : List Char} {c : Char}
    {kind : TokenKind} (complete : token.Complete right)
    (plain : ∀ value, token.kind ≠ .string value)
    (paren : c = '(' ∧ kind = .leftParen ∨ c = ')' ∧ kind = .rightParen)
    (spelled : token.text.toList = front ++ c :: back) :
    front = [] ∧ token = ⟨kind, String.singleton c, token.position⟩ := by
  have member : c ∈ token.text.toList := by
    rw [spelled]
    simp
  obtain ⟨tokenKind, text, position⟩ := token
  cases tokenKind with
  | word =>
      have inWord := complete.2.1 c member
      rcases paren with ⟨rfl, -⟩ | ⟨rfl, -⟩
      · cases inWord.symm.trans (by decide : isWordChar '(' = false)
      · cases inWord.symm.trans (by decide : isWordChar ')' = false)
  | string value => exact absurd rfl (plain value)
  | symbol =>
      have symbolic := mem_symbol complete.1 member
      rcases paren with ⟨rfl, -⟩ | ⟨rfl, -⟩ <;> exact absurd symbolic (by decide)
  | leftParen =>
      obtain ⟨empty, rfl⟩ := eq_of_singleton_eq_append
        ((toList_of_eq_opening complete).symm.trans spelled)
      obtain ⟨-, rfl⟩ | ⟨other, -⟩ := paren
      · exact ⟨empty, congrArg (Token.mk _ · _) complete⟩
      · cases other
  | rightParen =>
      obtain ⟨empty, rfl⟩ := eq_of_singleton_eq_append
        ((toList_of_eq_closing complete).symm.trans spelled)
      obtain ⟨other, -⟩ | ⟨-, rfl⟩ := paren
      · cases other
      · exact ⟨empty, congrArg (Token.mk _ · _) complete⟩

/-- A parenthesis outside of strings is a token by itself. -/
theorem SegmentsRest.parentheses {input : List Char} {tokens : List Token}
    (segments : SegmentsRest [] input tokens) {left after : List Char} {c : Char}
    {kind : TokenKind} (found : input = left ++ c :: after)
    (paren : c = '(' ∧ kind = .leftParen ∨ c = ')' ∧ kind = .rightParen)
    (outside : ∀ token ∈ tokens, ∀ value, token.kind = .string value →
      ¬token.Covers (Text.byteLength left)) :
    ⟨kind, String.singleton c, Text.byteLength left⟩ ∈ tokens := by
  have kept : isSeparator c = false := by
    rcases paren with ⟨rfl, -⟩ | ⟨rfl, -⟩ <;> decide
  obtain ⟨token, listed, covers⟩ := segments.exists_covers kept found
  obtain ⟨before, right, same, position, -, complete⟩ := segments.placed token listed
  obtain ⟨front, back, spelled, rfl⟩ := split_of_covers (same.symm.trans found) position covers
  have plain : ∀ value, token.kind ≠ .string value := fun value string =>
    outside token listed value string covers
  obtain ⟨rfl, alone⟩ := eq_of_parenthesis complete plain paren spelled
  rw [List.append_nil, ← position, ← alone]
  exact listed

/-! ## The tokens of a text -/

/-- A text has these tokens if they are its segments. -/
theorem tokenize_eq_ok_iff {text : String} {tokens : List Token} :
    tokenize text = .ok tokens ↔ Segments text tokens := by
  have apart : Apart [] text.toList := nofun
  have scanned : tokenize text = .ok tokens ↔ SegmentsRest [] text.toList tokens :=
    (scan_eq_ok_iff_tiles apart tokens).trans segmentsRest_iff_tiles.symm
  rw [scanned]
  constructor
  · intro segments
    exact ⟨segments.ordered, segments.placed, segments.skipped,
      fun _ _ _ _ found paren outside => segments.parentheses found paren outside⟩
  · intro segments
    exact ⟨segments.ordered, fun _ _ => Nat.zero_le _, segments.placed, segments.skipped⟩

private theorem utf8ByteSize_ofList (text : List Char) :
    (String.ofList text).utf8ByteSize = Text.byteLength text := by
  induction text with
  | nil => rfl
  | cons c rest ih =>
      rw [String.ofList_cons, String.utf8ByteSize_append, String.utf8ByteSize_singleton, ih,
        Text.byteLength]

/-- The size of a text is counted over its characters. -/
theorem utf8ByteSize_eq (text : String) : text.utf8ByteSize = Text.byteLength text.toList := by
  rw [← utf8ByteSize_ofList, String.ofList_toList]

/-- Whether a token starts and ends between characters of a text and has the bytes in between. -/
def IsSlice (token : Token) (text : String) : Prop :=
  String.Pos.Raw.IsValid text ⟨token.position⟩ ∧ String.Pos.Raw.IsValid text ⟨token.stop⟩ ∧
    text.toByteArray.extract token.position token.stop = token.text.toByteArray

private theorem isValid_of_split {text : String} {left right : List Char}
    (same : text.toList = left ++ right) :
    String.Pos.Raw.IsValid text ⟨Text.byteLength left⟩ := by
  rw [String.Pos.Raw.isValid_iff_exists_append]
  refine ⟨String.ofList left, String.ofList right, ?_, ?_⟩
  · rw [← String.ofList_append, ← same, String.ofList_toList]
  · exact congrArg String.Pos.Raw.mk (utf8ByteSize_ofList left).symm

/-- A token is the slice of the text that it stands for. -/
theorem isSlice_of_split {text : String} {token : Token} {left right : List Char}
    (same : text.toList = left ++ (token.text.toList ++ right))
    (position : token.position = Text.byteLength left) : token.IsSlice text := by
  refine ⟨?_, ?_, ?_⟩
  · rw [position]
    exact isValid_of_split same
  · rw [stop_eq position]
    exact isValid_of_split (same.trans (List.append_assoc ..).symm)
  · have pieces : text = String.ofList left ++ (token.text ++ String.ofList right) := by
      rw [← String.ofList_toList (s := text), same, String.ofList_append, String.ofList_append,
        String.ofList_toList]
    have before : (String.ofList left).toByteArray.size = token.position := by
      rw [String.size_toByteArray, utf8ByteSize_ofList, position]
    have inside : token.text.toByteArray.size = Text.byteLength token.text.toList := by
      rw [String.size_toByteArray, utf8ByteSize_eq]
    have cut := ByteArray.extract_append_size_add (a := (String.ofList left).toByteArray)
      (b := token.text.toByteArray ++ (String.ofList right).toByteArray) (i := 0)
      (j := token.text.toByteArray.size)
    rw [ByteArray.extract_append_eq_left rfl, Nat.add_zero, before, inside,
      ← String.toByteArray_append, ← String.toByteArray_append, ← pieces] at cut
    exact cut

/-- **The tokens of a text are its only segmentation.** They come in order, without overlap, and
each is as long as it can be; what none of them covers is separators, and a parenthesis outside of
strings is a token by itself. Their bytes are those of the text between two character boundaries.
No other list of tokens is such a segmentation. -/
theorem tokenize_segments (text : String) (tokens : List Token)
    (tokenized : tokenize text = .ok tokens) :
    Segments text tokens ∧ (∀ token ∈ tokens, token.IsSlice text) ∧
      ∀ other, Segments text other → other = tokens := by
  have segments := tokenize_eq_ok_iff.mp tokenized
  refine ⟨segments, ?_, ?_⟩
  · intro token listed
    obtain ⟨left, right, same, position, -⟩ := segments.placed token listed
    exact isSlice_of_split same position
  · intro other again
    exact Except.ok.inj ((tokenize_eq_ok_iff.mpr again).symm.trans tokenized)

/-- A text with wide characters, tokens that touch, and a quote and a parenthesis in a string. -/
def mixedText : String := "naïve>='it''s (',!(b,¡)"

/-- The tokens of this text. -/
def mixedTokens : List Token :=
  [⟨.word, "naïve", 0⟩, ⟨.symbol, ">=", 6⟩, ⟨.string "it's (", "'it''s ('", 8⟩, ⟨.symbol, "!", 18⟩,
    ⟨.leftParen, "(", 19⟩, ⟨.word, "b", 20⟩, ⟨.word, "¡", 22⟩, ⟨.rightParen, ")", 24⟩]

/-- Tokens of every kind, some of them without separators in between. -/
theorem tokenize_segments_mixed :
    tokenize mixedText = .ok mixedTokens ∧ Segments mixedText mixedTokens ∧
      (∀ token ∈ mixedTokens, token.IsSlice mixedText) ∧
      ∀ other, Segments mixedText other → other = mixedTokens := by
  have tokenized : tokenize mixedText = .ok mixedTokens := by decide +kernel
  exact ⟨tokenized, tokenize_segments mixedText mixedTokens tokenized⟩

end RowQuery.Token
