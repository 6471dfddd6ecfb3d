import RowQuery.Literal

/-! # Texts in lower case

Putting the letters `A` to `Z` of a text into lower case (`Text.foldCase`) changes neither the
lower-case form by which columns are found (`Text.lower_foldCase`) nor the literal that a word
spells (`Literal.ofWord?_foldCase`). Both rest on finite facts about the twenty-six letters, one
for each property of characters that the definitions look at (`Text.toLower_invariant`).
-/

namespace RowQuery

namespace Text

/-- A text with the letters `A` to `Z` in lower case. -/
def foldCase (text : String) : String := String.ofList (text.toList.map Char.toLower)

@[simp] private theorem toList_foldCase (text : String) :
    (foldCase text).toList = text.toList.map Char.toLower := String.toList_ofList

/-! ## Single characters -/

/-- The letters that have another lower-case form. -/
def capitals : List Char := "ABCDEFGHIJKLMNOPQRSTUVWXYZ".toList

private theorem toLower_eq_or_mem_capitals (c : Char) : c.toLower = c ∨ c ∈ capitals := by
  by_cases upper : c.val ≥ 'A'.val ∧ c.val ≤ 'Z'.val
  · right
    have least : 65 ≤ c.toNat := upper.1
    have most : c.toNat ≤ 90 := upper.2
    have codes : c.toNat ∈ (List.range 26).map (65 + ·) := by
      refine List.mem_map.mpr ⟨c.toNat - 65, List.mem_range.mpr ?_, ?_⟩ <;> omega
    rw [← Char.ofNat_toNat c]
    exact List.mem_map_of_mem (f := Char.ofNat) codes
  · left
    unfold Char.toLower
    rw [dif_neg upper]

/-- What does not tell a capital letter from its lower-case form does not depend on case. -/
theorem toLower_invariant {α : Type} [DecidableEq α] {p : Char → α}
    (same : capitals.all (fun c => p c.toLower = p c) = true) (c : Char) : p c.toLower = p c := by
  rcases toLower_eq_or_mem_capitals c with plain | capital
  · rw [plain]
  · exact of_decide_eq_true (List.all_eq_true.mp same c capital)

/-- A function that ignores the case of a letter agrees on letters that differ in case only. -/
theorem eq_of_toLower_eq {α : Type} {p : Char → α} (invariant : ∀ c, p c.toLower = p c)
    {c d : Char} (same : c.toLower = d.toLower) : p d = p c := by
  rw [← invariant d, ← same, invariant c]

private theorem toLower_toLower (c : Char) : c.toLower.toLower = c.toLower :=
  toLower_invariant (p := Char.toLower) (by decide) c

/-- A text in lower case stays as it is in lower case. -/
theorem map_toLower_map_toLower (text : List Char) :
    (text.map Char.toLower).map Char.toLower = text.map Char.toLower := by
  rw [List.map_map]
  exact List.map_congr_left fun c _ => toLower_toLower c

/-- Whether a character is no letter from `A` to `Z` in either case. -/
def caseless (d : Char) : Bool := capitals.all fun c => c ≠ d ∧ c.toLower ≠ d

/-- Only a character itself becomes one that has no cases. -/
theorem toLower_eq_iff {d : Char} (plain : caseless d = true) (c : Char) :
    c.toLower = d ↔ c = d := by
  rcases toLower_eq_or_mem_capitals c with same | capital
  · rw [same]
  · have differs := of_decide_eq_true (List.all_eq_true.mp plain c capital)
    exact iff_of_false differs.2 differs.1

private theorem map_toLower_eq_iff {other : List Char} (plain : other.all caseless = true)
    (text : List Char) : text.map Char.toLower = other ↔ text = other := by
  induction other generalizing text with
  | nil => exact List.map_eq_nil_iff
  | cons d other ih =>
      rw [List.all_cons, Bool.and_eq_true] at plain
      cases text with
      | nil => exact Iff.rfl
      | cons c text =>
          rw [List.map_cons, List.cons.injEq, List.cons.injEq, toLower_eq_iff plain.1,
            ih plain.2 text]

/-! ## The lower-case form of a name -/

/-- Contexts do not look past the letters `A` to `Z`, in either case. -/
theorem not_caseIgnorable_of_letter {c : Char}
    (letter : 65 ≤ c.toNat ∧ c.toNat ≤ 90 ∨ 97 ≤ c.toNat ∧ c.toNat ≤ 122) :
    inRanges caseIgnorableRanges c = false := by
  have apart : caseIgnorableRanges.all (fun range =>
      range.2 < 65 ∨ 90 < range.1 ∧ range.2 < 97 ∨ 122 < range.1) = true := by decide +kernel
  apply List.any_eq_false.mpr
  intro range member inside
  have outside := of_decide_eq_true (List.all_eq_true.mp apart range member)
  simp only [Bool.and_eq_true, decide_eq_true_eq] at inside
  omega

private theorem inRanges_caseIgnorable_toLower (c : Char) :
    inRanges caseIgnorableRanges c.toLower = inRanges caseIgnorableRanges c := by
  have letters : capitals.all (fun c => (65 ≤ c.toNat ∧ c.toNat ≤ 90) ∧
      97 ≤ c.toLower.toNat ∧ c.toLower.toNat ≤ 122) = true := by decide
  rcases toLower_eq_or_mem_capitals c with plain | capital
  · rw [plain]
  · obtain ⟨large, small⟩ := of_decide_eq_true (List.all_eq_true.mp letters c capital)
    rw [not_caseIgnorable_of_letter (.inl large), not_caseIgnorable_of_letter (.inr small)]

private theorem inRanges_cased_toLower (c : Char) :
    inRanges casedRanges c.toLower = inRanges casedRanges c :=
  toLower_invariant (p := inRanges casedRanges) (by decide +kernel) c

private theorem lowerChar_toLower (c : Char) : lowerChar c.toLower = lowerChar c :=
  toLower_invariant (p := lowerChar) (by decide +kernel) c

private theorem meetsCased_map_toLower (context : List Char) :
    meetsCased (context.map Char.toLower) = meetsCased context := by
  have passed : inRanges caseIgnorableRanges ∘ Char.toLower = inRanges caseIgnorableRanges :=
    funext inRanges_caseIgnorable_toLower
  unfold meetsCased
  rw [List.dropWhile_map, passed]
  cases context.dropWhile (inRanges caseIgnorableRanges) with
  | nil => rfl
  | cons c rest => exact inRanges_cased_toLower c

/-- The letters around a character matter only by whether they are cased. -/
theorem lowerAfter_map_toLower (before text : List Char) :
    lowerAfter (before.map Char.toLower) (text.map Char.toLower) = lowerAfter before text := by
  induction text generalizing before with
  | nil => rfl
  | cons c rest ih =>
      have sigma : c.toLower = 'Σ' ↔ c = 'Σ' := toLower_eq_iff (by decide) c
      have later := ih (c :: before)
      rw [List.map_cons] at later
      simp only [List.map_cons, lowerAfter, sigma, meetsCased_map_toLower, lowerChar_toLower, later]

/-- **Names.** The lower-case form of a text does not depend on the case of `A` to `Z`. -/
theorem lower_foldCase (text : String) : lower (foldCase text) = lower text := by
  unfold lower
  rw [toList_foldCase]
  exact congrArg String.ofList (lowerAfter_map_toLower [] text.toList)

/-- Texts are compared without case, so folding one of them changes nothing. -/
theorem sameIgnoringCase_foldCase (text other : String) :
    sameIgnoringCase (foldCase text) other = sameIgnoringCase text other := by
  unfold sameIgnoringCase
  rw [toList_foldCase, map_toLower_map_toLower]

/-- A text without letters is not the lower-case form of any other one. -/
theorem foldCase_eq_iff {other : String} (plain : other.toList.all caseless = true)
    (text : String) : foldCase text = other ↔ text = other := by
  rw [← String.toList_inj, toList_foldCase, map_toLower_eq_iff plain, String.toList_inj]

end Text

/-! ## Literals -/

namespace Numeral

private theorem isDigit_toLower (c : Char) : c.toLower.isDigit = c.isDigit :=
  Text.toLower_invariant (p := Char.isDigit) (by decide) c

private theorem isDigit_comp_toLower : Char.isDigit ∘ Char.toLower = Char.isDigit :=
  funext isDigit_toLower

/-- Digits have no case. -/
theorem map_toLower_of_isDigit {digits : List Char} (all : digits.all Char.isDigit = true) :
    digits.map Char.toLower = digits := by
  have letters : Text.capitals.all (fun c => !c.isDigit) = true := by decide
  have same : digits.map Char.toLower = digits.map id := by
    apply List.map_congr_left
    intro c member
    rcases Text.toLower_eq_or_mem_capitals c with plain | capital
    · exact plain
    · have digit := List.all_eq_true.mp all c member
      have letter := List.all_eq_true.mp letters c capital
      rw [digit] at letter
      cases letter
  rw [same, List.map_id]

private theorem takeWhile_isDigit_map_toLower (text : List Char) :
    (text.map Char.toLower).takeWhile Char.isDigit = text.takeWhile Char.isDigit := by
  rw [List.takeWhile_map, isDigit_comp_toLower]
  exact map_toLower_of_isDigit List.all_takeWhile

private theorem dropWhile_isDigit_map_toLower (text : List Char) :
    (text.map Char.toLower).dropWhile Char.isDigit =
      (text.dropWhile Char.isDigit).map Char.toLower := by
  rw [List.dropWhile_map, isDigit_comp_toLower]

private theorem splitSign_map_toLower (text : List Char) :
    splitSign (text.map Char.toLower) =
      ((splitSign text).1, (splitSign text).2.map Char.toLower) := by
  fun_cases splitSign text with
  | case1 rest => rfl
  | case2 rest => rfl
  | case3 text minus plus =>
      cases text with
      | nil => rfl
      | cons c rest =>
          have noMinus : c.toLower ≠ '-' := fun same =>
            minus rest (by rw [(Text.toLower_eq_iff (by decide) c).mp same])
          have noPlus : c.toLower ≠ '+' := fun same =>
            plus rest (by rw [(Text.toLower_eq_iff (by decide) c).mp same])
          rw [List.map_cons, splitSign]
          · intro after same
            exact noMinus (List.cons.inj same).1
          · intro after same
            exact noPlus (List.cons.inj same).1

private theorem onlyDigits?_map_toLower (text : List Char) :
    onlyDigits? (text.map Char.toLower) = onlyDigits? text := by
  unfold onlyDigits?
  simp only [List.all_map, isDigit_comp_toLower, ne_eq, List.map_eq_nil_iff]
  split
  · rename_i digits
    rw [map_toLower_of_isDigit digits.2]
  · rfl

private theorem readExponent?_map_toLower (text : List Char) :
    readExponent? (text.map Char.toLower) = readExponent? text := by
  cases text with
  | nil => rfl
  | cons mark rest =>
      have marks : (mark.toLower = 'e' || mark.toLower = 'E') = (mark = 'e' || mark = 'E') :=
        Text.toLower_invariant (p := fun c => decide (c = 'e') || decide (c = 'E')) (by decide) mark
      simp only [List.map_cons, readExponent?, marks, splitSign_map_toLower,
        onlyDigits?_map_toLower]

private theorem splitFraction_map_toLower (text : List Char) :
    splitFraction (text.map Char.toLower) =
      ((splitFraction text).1, (splitFraction text).2.map Char.toLower) := by
  fun_cases splitFraction text with
  | case1 rest =>
      change (_, _) = _
      rw [takeWhile_isDigit_map_toLower, dropWhile_isDigit_map_toLower]
  | case2 text point =>
      cases text with
      | nil => rfl
      | cons c rest =>
          have noPoint : c.toLower ≠ '.' := fun same =>
            point rest (by rw [(Text.toLower_eq_iff (by decide) c).mp same])
          rw [List.map_cons, splitFraction]
          intro after same
          exact noPoint (List.cons.inj same).1

/-- Decimals are read in any case. -/
theorem read?_map_toLower (text : List Char) : read? (text.map Char.toLower) = read? text := by
  simp only [read?, takeWhile_isDigit_map_toLower, dropWhile_isDigit_map_toLower,
    splitFraction_map_toLower, readExponent?_map_toLower]

end Numeral

/-- Integers are read in any case. -/
theorem readInt32?_map_toLower (text : List Char) :
    readInt32? (text.map Char.toLower) = readInt32? text := by
  simp only [readInt32?, Numeral.splitSign_map_toLower, Numeral.onlyDigits?_map_toLower]

/-- Floats are read in any case. -/
theorem Binary32.read?_map_toLower (text : List Char) :
    read? (text.map Char.toLower) = read? text := by
  simp only [read?, readName?, Numeral.splitSign_map_toLower, Numeral.read?_map_toLower,
    Text.map_toLower_map_toLower]

/-- **Words.** The literal that a word spells does not depend on the case of its letters. -/
theorem Literal.ofWord?_foldCase (word : String) : ofWord? (Text.foldCase word) = ofWord? word := by
  simp only [ofWord?, Text.sameIgnoringCase_foldCase, Text.toList_foldCase,
    readInt32?_map_toLower, Binary32.read?_map_toLower]

end RowQuery
