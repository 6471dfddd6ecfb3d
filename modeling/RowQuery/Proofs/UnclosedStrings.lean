import Mathlib.Algebra.Ring.Parity
import RowQuery.Proofs.TokenSegments

/-! # Strings that are never closed

A closed string has an even number of quotes, and one that is never closed has only doubled quotes
after the quote that opens it. So a text fails to have tokens exactly if its number of quotes is
odd, and the quote at fault is the first that has an even number of quotes before it and only
doubled ones after it (`Token.tokenize_fails_iff_odd`).
-/

namespace RowQuery.Token

/-- Whether the quotes of a text, taken two by two, stand side by side: a quote with an even number
of quotes before it is followed by another at once. -/
def Doubled (text : List Char) : Prop :=
  ∀ left right, text = left ++ '\'' :: right → Even (left.count '\'') → right.head? = some '\''

/-- Whether the quote after the first part of a text has an even number of quotes before it and only
doubled ones after it. -/
def Unpaired (text left : List Char) : Prop :=
  ∃ right, text = left ++ '\'' :: right ∧ Even (left.count '\'') ∧ Doubled right

/-- Whether the quote after the first part of a text is the first of this kind. -/
structure FirstUnpaired (text left : List Char) : Prop where
  unpaired : Unpaired text left
  first : ∀ other, Unpaired text other → left.length ≤ other.length

/-! ## Doubled quotes -/

private theorem even_count_pair {text : List Char} :
    Even (('\'' :: '\'' :: text).count '\'') ↔ Even (text.count '\'') := by
  rw [List.count_cons_self, List.count_cons_self, Nat.even_iff, Nat.even_iff]
  omega

private theorem doubled_nil : Doubled [] := by
  intro left right empty
  simp at empty

private theorem doubled_cons {c : Char} (plain : c ≠ '\'') {rest : List Char} :
    Doubled (c :: rest) ↔ Doubled rest := by
  constructor
  · rintro doubled left right rfl even
    apply doubled (c :: left) right rfl
    rwa [List.count_cons_of_ne plain]
  · intro doubled left right same even
    cases left with
    | nil =>
        cases same
        exact absurd rfl plain
    | cons d left =>
        cases same
        rw [List.count_cons_of_ne plain] at even
        exact doubled left right rfl even

private theorem doubled_pair {rest : List Char} :
    Doubled ('\'' :: '\'' :: rest) ↔ Doubled rest := by
  constructor
  · rintro doubled left right rfl even
    exact doubled ('\'' :: '\'' :: left) right rfl (even_count_pair.mpr even)
  · intro doubled left right same even
    match left, same with
    | [], same =>
        cases same
        rfl
    | [d], same =>
        -- The second quote of the pair has one quote before it.
        cases same
        simp at even
    | d :: e :: left, same =>
        cases same
        exact doubled left right rfl (even_count_pair.mp even)

/-- In a string that is never closed every quote is doubled. -/
theorem doubled_of_quoted? {input : List Char} (unclosed : quoted? input = none) :
    Doubled input := by
  fun_induction quoted? input with
  | case1 => exact doubled_nil
  | case2 rest ih => exact doubled_pair.mpr (ih (Option.map_eq_none_iff.mp unclosed))
  | case3 rest single => cases unclosed
  | case4 c rest single plain ih =>
      exact (doubled_cons plain).mpr (ih (Option.map_eq_none_iff.mp unclosed))

/-- Doubled quotes are even in number. -/
theorem Doubled.even {input : List Char} (doubled : Doubled input) : Even (input.count '\'') := by
  fun_induction quoted? input with
  | case1 => exact Even.zero
  | case2 rest ih => exact even_count_pair.mpr (ih (doubled_pair.mp doubled))
  | case3 rest single =>
      obtain ⟨after, rfl⟩ := List.head?_eq_some_iff.mp (doubled [] rest rfl Even.zero)
      exact (single after rfl rfl).elim
  | case4 c rest single plain ih =>
      rw [List.count_cons_of_ne plain]
      exact ih ((doubled_cons plain).mp doubled)

/-- A text with an unpaired quote has an odd number of them. -/
theorem Unpaired.odd {text left : List Char} (unpaired : Unpaired text left) :
    Odd (text.count '\'') := by
  obtain ⟨right, rfl, before, doubled⟩ := unpaired
  have after := doubled.even
  rw [List.count_append, List.count_cons_self]
  exact before.add_odd after.add_one

/-- There is one first unpaired quote. -/
theorem FirstUnpaired.unique {text left other : List Char} (first : FirstUnpaired text left)
    (again : FirstUnpaired text other) : left = other := by
  obtain ⟨right, same, -⟩ := first.unpaired
  obtain ⟨after, sameToo, -⟩ := again.unpaired
  have length :=
    Nat.le_antisymm (first.first other again.unpaired) (again.first left first.unpaired)
  exact (List.append_inj (same.symm.trans sameToo) length).1

/-! ## Parts without an unpaired quote -/

/-- Whether the first part of a text has its quotes to itself: they are even in number, and none of
them is unpaired in the whole text. -/
structure Settled (part rest : List Char) : Prop where
  even : Even (part.count '\'')
  paired : ∀ left right, part = left ++ '\'' :: right → Even (left.count '\'') →
    ¬Doubled (right ++ rest)

/-- Behind a settled part the first unpaired quote is that of the rest. -/
theorem FirstUnpaired.append {part rest left : List Char} (settled : Settled part rest)
    (first : FirstUnpaired rest left) : FirstUnpaired (part ++ rest) (part ++ left) := by
  obtain ⟨⟨right, rfl, even, doubled⟩, least⟩ := first
  refine ⟨⟨right, (List.append_assoc ..).symm, ?_, doubled⟩, ?_⟩
  · rw [List.count_append]
    exact settled.even.add even
  · rintro other ⟨after, same, evenOther, doubledAfter⟩
    rcases split_cons same with ⟨back, rfl⟩ | ⟨front, rfl, found⟩
    · rw [List.append_assoc, List.cons_append] at same
      obtain rfl := (List.cons.inj (List.append_cancel_left same)).2
      exact absurd doubledAfter (settled.paired other back rfl evenOther)
    · rw [List.count_append, Nat.even_add] at evenOther
      have shorter := least front ⟨after, found, evenOther.mp settled.even, doubledAfter⟩
      rw [List.length_append, List.length_append]
      exact Nat.add_le_add_left shorter part.length

/-- A part without quotes is settled. -/
theorem settled_of_plain {part : List Char} (plain : '\'' ∉ part) (rest : List Char) :
    Settled part rest := by
  constructor
  · rw [List.count_eq_zero_of_not_mem plain]
    exact Even.zero
  · rintro left right rfl
    exact absurd (by simp) plain

private theorem count_doubleQuotes (value : List Char) :
    (Text.doubleQuotes value).count '\'' = 2 * value.count '\'' := by
  induction value with
  | nil => rfl
  | cons c value ih =>
      rw [Text.doubleQuotes]
      split
      · rename_i quote
        rw [quote, List.count_cons_self, List.count_cons_self, List.count_cons_self, ih]
        omega
      · rename_i plain
        rw [List.count_cons_of_ne plain, List.count_cons_of_ne plain, ih]

private theorem even_count_quoteLiteral (value : String) :
    Even ((Text.quoteLiteral value).toList.count '\'') := by
  rw [Text.quoteLiteral, String.toList_ofList, List.count_append, List.count_cons_self,
    count_doubleQuotes, List.count_singleton_self, Nat.even_iff]
  omega

/-- Of the quotes after one that has an even number before it, the closing quote is the last and has
an even number before it in turn, but no quote follows it. -/
theorem settled_of_literal (value : String) {rest : List Char} (ended : rest.head? ≠ some '\'') :
    Settled (Text.quoteLiteral value).toList rest := by
  have even := even_count_quoteLiteral value
  refine ⟨even, ?_⟩
  intro left right spelled evenLeft doubled
  rw [spelled, List.count_append, List.count_cons_self, Nat.even_iff] at even
  rw [Nat.even_iff] at evenLeft
  rcases List.eq_nil_or_concat' right with rfl | ⟨inner, c, rfl⟩
  · rw [List.count_nil] at even
    omega
  · have closing : c = '\'' := by
      have last := getLast?_quoteLiteral value
      rw [spelled, ← List.cons_append, ← List.append_assoc, List.getLast?_concat] at last
      exact Option.some.inj last
    subst closing
    refine ended (doubled inner rest (List.append_assoc ..) ?_)
    rw [List.count_append, List.count_singleton_self] at even
    rw [Nat.even_iff]
    omega

/-- A complete token is settled. -/
theorem settled_of_complete {token : Token} {rest : List Char} (complete : token.Complete rest) :
    Settled token.text.toList rest := by
  obtain ⟨kind, text, position⟩ := token
  cases kind with
  | word =>
      refine settled_of_plain (fun quote => ?_) rest
      cases complete.2.1 '\'' quote
  | string value =>
      obtain ⟨rfl, ended⟩ := complete
      exact settled_of_literal value ended
  | symbol =>
      refine settled_of_plain (fun quote => ?_) rest
      exact absurd (mem_symbol complete.1 quote) (by decide)
  | leftParen =>
      refine settled_of_plain ?_ rest
      dsimp only
      rw [toList_of_eq_opening complete]
      decide
  | rightParen =>
      refine settled_of_plain ?_ rest
      dsimp only
      rw [toList_of_eq_closing complete]
      decide

/-- A lexeme is settled. -/
theorem settled_of_lexeme? {c : Char} {rest : List Char} {lexeme : Lexeme}
    (kept : isSeparator c = false) (found : lexeme? c rest = some lexeme) :
    c :: rest = lexeme.text ++ lexeme.rest ∧ Settled lexeme.text lexeme.rest := by
  obtain ⟨same, complete⟩ := complete_of_lexeme? kept found 0
  have settled := settled_of_complete complete
  rw [String.toList_ofList] at settled
  exact ⟨same, settled⟩

private theorem settled_of_separator {c : Char} (divides : isSeparator c = true)
    (rest : List Char) :
    Settled [c] rest := by
  refine settled_of_plain (fun quote => ?_) rest
  cases List.mem_singleton.mp quote
  cases divides

/-! ## Scanning -/

/-- Only a string that is not closed keeps a lexeme from being found. -/
theorem unclosed_of_lexeme? {c : Char} {rest : List Char} (missing : lexeme? c rest = none) :
    c = '\'' ∧ quoted? rest = none := by
  unfold lexeme? at missing
  split at missing
  · rename_i quote
    exact ⟨quote, Option.map_eq_none_iff.mp missing⟩
  · repeat' split at missing
    all_goals cases missing

/-- A text that can be scanned has an even number of quotes. -/
theorem even_count_of_scan {position : Nat} {input : List Char} {tokens : List Token}
    (scanned : scan position input = .ok tokens) : Even (input.count '\'') := by
  fun_induction scan position input generalizing tokens with
  | case1 => exact Even.zero
  | case2 position c rest divides ih =>
      rw [← List.singleton_append, List.count_append]
      exact (settled_of_separator divides rest).even.add (ih scanned)
  | case3 position c rest kept missing => cases scanned
  | case4 position c rest kept lexeme found shorter ih =>
      obtain ⟨others, following, -⟩ := map_cons_eq_ok_iff.mp scanned
      obtain ⟨same, settled⟩ := settled_of_lexeme? (Bool.eq_false_iff.mpr kept) found
      rw [same, List.count_append]
      exact settled.even.add (ih following)

/-- A scan that fails does so at the first unpaired quote. -/
theorem firstUnpaired_of_scan {position : Nat} {input : List Char} {failure : Unterminated}
    (failed : scan position input = .error failure) :
    ∃ left, FirstUnpaired input left ∧ failure.position = position + Text.byteLength left := by
  fun_induction scan position input with
  | case1 => cases failed
  | case2 position c rest divides ih =>
      obtain ⟨left, first, place⟩ := ih failed
      refine ⟨c :: left, first.append (settled_of_separator divides rest), ?_⟩
      rw [place, Text.byteLength, Nat.add_assoc]
  | case3 position c rest kept missing =>
      cases failed
      obtain ⟨rfl, unclosed⟩ := unclosed_of_lexeme? missing
      refine ⟨[], ⟨⟨rest, rfl, Even.zero, doubled_of_quoted? unclosed⟩, ?_⟩, rfl⟩
      exact fun _ _ => Nat.zero_le _
  | case4 position c rest kept lexeme found shorter ih =>
      obtain ⟨same, settled⟩ := settled_of_lexeme? (Bool.eq_false_iff.mpr kept) found
      obtain ⟨left, first, place⟩ := ih (map_cons_eq_error_iff.mp failed)
      refine ⟨lexeme.text ++ left, same ▸ first.append settled, ?_⟩
      rw [place, byteLength_append, Nat.add_assoc]

/-- **A text fails to have tokens exactly if its quotes are odd in number.** The failure is then at
the first quote with an even number of quotes before it and only doubled ones after it. -/
theorem tokenize_fails_iff_odd (text : String) :
    ((∃ failure, tokenize text = .error failure) ↔ Odd (text.toList.count '\'')) ∧
      ∀ position, tokenize text = .error ⟨position⟩ ↔ Odd (text.toList.count '\'') ∧
        ∃ left, FirstUnpaired text.toList left ∧ position = Text.byteLength left := by
  have place {failure : Unterminated} (failed : tokenize text = .error failure) :
      ∃ left, FirstUnpaired text.toList left ∧ failure.position = Text.byteLength left := by
    simpa only [Nat.zero_add] using firstUnpaired_of_scan failed
  have fails : (∃ failure, tokenize text = .error failure) ↔ Odd (text.toList.count '\'') := by
    constructor
    · rintro ⟨failure, failed⟩
      obtain ⟨left, first, -⟩ := place failed
      exact first.unpaired.odd
    · intro odd
      cases scanned : tokenize text with
      | error failure => exact ⟨failure, rfl⟩
      | ok tokens => exact absurd (even_count_of_scan scanned) (Nat.not_even_iff_odd.mpr odd)
  refine ⟨fails, fun position => ⟨fun failed => ⟨fails.mp ⟨_, failed⟩, place failed⟩, ?_⟩⟩
  rintro ⟨odd, left, first, rfl⟩
  obtain ⟨failure, failed⟩ := fails.mpr odd
  obtain ⟨other, again, found⟩ := place failed
  rw [failed, first.unique again, ← found]

-- The first string is closed, although it has doubled quotes at both of its ends.
example : tokenize "'''a''' 'it''s" = .error ⟨8⟩ := by decide +kernel

end RowQuery.Token
