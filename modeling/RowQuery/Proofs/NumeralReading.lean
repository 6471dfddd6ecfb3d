import Mathlib.Algebra.Order.Field.Rat
import Mathlib.Data.List.Induction
import Mathlib.Tactic.FieldSimp
import RowQuery.Decimal.Layout
import RowQuery.Decimal.Numeral

/-! # Reading numbers back

What the reader of numbers makes of the texts that numbers are written with: whole numbers read as
themselves (`readInt32?_intChars`), and both ways to write a decimal read as a numeral of the same
value (`Decimal.read?_positionalChars`, `Decimal.read?_scientificChars`).
-/

namespace RowQuery

namespace Numeral

/-- The value of a numeral. -/
def value (numeral : Numeral) : ℚ := digitsValue numeral.digits * 10 ^ numeral.exponent

/-- Whether a numeral has digits only, the first of which is not zero. -/
structure Normal (numeral : Numeral) : Prop where
  /-- Every character is a digit. -/
  digits : ∀ c ∈ numeral.digits, c.isDigit = true
  /-- The first digit is not zero. -/
  leads : numeral.digits.head? ≠ some '0'

/-! ## Digits -/

/-- The digits of a number spell it. -/
@[simp] theorem digitsValue_digits (number : Nat) : digitsValue (Text.digits number) = number :=
  Nat.ofDigitChars_ten_toDigits

/-- Digits in front of others count by as many powers of ten as these are. -/
theorem digitsValue_append (left right : List Char) :
    digitsValue (left ++ right) = 10 ^ right.length * digitsValue left + digitsValue right :=
  (Nat.ofDigitChars_append 0).trans Nat.ofDigitChars_eq_ofDigitChars_zero

/-- The first digit counts by as many powers of ten as there are others. -/
theorem digitsValue_cons (c : Char) (digits : List Char) :
    digitsValue (c :: digits) = 10 ^ digits.length * digitValue c + digitsValue digits := by
  rw [← List.singleton_append, digitsValue_append]
  simp [digitsValue]

private theorem digitsValue_replicate_zero (count : Nat) :
    digitsValue (List.replicate count '0') = 0 :=
  Nat.ofDigitChars_replicate_zero.trans (Nat.mul_zero _)

/-- Leading zeros do not count. -/
theorem digitsValue_dropZeros : ∀ digits : List Char,
    digitsValue (digits.dropWhile (· = '0')) = digitsValue digits
  | [] => rfl
  | c :: digits => by
      by_cases zero : c = '0'
      · subst zero
        rw [List.dropWhile_cons_of_pos (by decide), digitsValue_dropZeros digits, digitsValue_cons,
          show digitValue '0' = 0 from rfl, Nat.mul_zero, Nat.zero_add]
      · rw [List.dropWhile_cons_of_neg (by simpa using zero)]

private theorem digitValue_le {c : Char} (digit : c.isDigit = true) : digitValue c ≤ 9 := by
  have bounds := Char.isDigit_iff_toNat.mp digit
  have zero : '0'.toNat = 48 := rfl
  have nine : '9'.toNat = 57 := rfl
  unfold digitValue
  omega

private theorem digitValue_pos {c : Char} (digit : c.isDigit = true) (nonzero : c ≠ '0') :
    0 < digitValue c := by
  have bounds := Char.isDigit_iff_toNat.mp digit
  have other : c.toNat ≠ '0'.toNat := fun same => nonzero (Char.toNat_inj.mp same)
  unfold digitValue
  omega

/-- What digits spell is below the power of ten of their number. -/
theorem digitsValue_lt : ∀ {digits : List Char}, (∀ c ∈ digits, c.isDigit = true) →
    digitsValue digits < 10 ^ digits.length
  | [], _ => Nat.one_pos
  | c :: digits, all => by
      have first := digitValue_le (all c List.mem_cons_self)
      have others := digitsValue_lt fun d member => all d (List.mem_cons_of_mem c member)
      have scaled := Nat.mul_le_mul_left (10 ^ digits.length) first
      rw [digitsValue_cons, List.length_cons, Nat.pow_succ]
      omega

/-- A numeral that starts with a digit other than zero is no less than the power of ten that digit
counts. -/
theorem le_digitsValue_cons {c : Char} (digit : c.isDigit = true) (nonzero : c ≠ '0')
    (digits : List Char) : 10 ^ digits.length ≤ digitsValue (c :: digits) := by
  have scaled := Nat.mul_le_mul_left (10 ^ digits.length) (digitValue_pos digit nonzero)
  rw [digitsValue_cons]
  omega

/-- A whole number between two powers of ten stays between them on every scale. -/
theorem scaled_bounds {number count : Nat} (low : 10 ^ count ≤ number)
    (high : number < 10 ^ (count + 1)) (exponent : Int) :
    (10 : ℚ) ^ (exponent + count) ≤ number * 10 ^ exponent ∧
      number * 10 ^ exponent < (10 : ℚ) ^ (exponent + count + 1) := by
  have unit : (0 : ℚ) < 10 ^ exponent := zpow_pos (by norm_num) exponent
  have power : ∀ power : ℕ, (10 : ℚ) ^ (exponent + power) = (10 ^ power : ℕ) * 10 ^ exponent := by
    intro power
    rw [zpow_add₀ (by norm_num), zpow_natCast, mul_comm, Nat.cast_pow, Nat.cast_ofNat]
  rw [power, add_assoc, ← Nat.cast_succ, power]
  exact ⟨mul_le_mul_of_nonneg_right (Nat.cast_le.mpr low) unit.le,
    mul_lt_mul_of_pos_right (Nat.cast_lt.mpr high) unit⟩

/-- A normal numeral other than zero lies between the powers of ten at its leading digit. -/
theorem Normal.value_bounds {numeral : Numeral} (normal : numeral.Normal)
    (nonzero : numeral.digits ≠ []) :
    (10 : ℚ) ^ numeral.leading ≤ numeral.value ∧
      numeral.value < (10 : ℚ) ^ (numeral.leading + 1) := by
  obtain ⟨digits, exponent⟩ := numeral
  obtain ⟨c, digits, rfl⟩ := List.exists_cons_of_ne_nil nonzero
  have low := le_digitsValue_cons (normal.digits c List.mem_cons_self)
    (fun zero => normal.leads (congrArg some zero)) digits
  have bounds := scaled_bounds low (digitsValue_lt normal.digits) exponent
  have leading : (Numeral.mk (c :: digits) exponent).leading = exponent + digits.length := by
    simp only [Numeral.leading, List.length_cons]
    omega
  rw [leading]
  exact bounds

/-! ## Signs and exponents -/

/-- A number is spelled with digits only. -/
theorem isDigit_of_mem_digits {number : Nat} {c : Char} (member : c ∈ Text.digits number) :
    c.isDigit = true :=
  Nat.isDigit_of_mem_toDigits (by decide) (by decide) member

/-- A digit is not a sign. -/
theorem splitSign_of_isDigit {c : Char} (digit : c.isDigit = true) (rest : List Char) :
    splitSign (c :: rest) = (false, c :: rest) := by
  unfold splitSign
  split
  · rename_i same
    cases List.head_eq_of_cons_eq same
    exact absurd digit (by decide)
  · rename_i same
    cases List.head_eq_of_cons_eq same
    exact absurd digit (by decide)
  · rfl

/-- The sign and the digits of an integer are told apart. -/
theorem splitSign_intChars (number : Int) :
    splitSign (Text.intChars number) = (decide (number < 0), Text.digits number.natAbs) := by
  unfold Text.intChars
  by_cases negative : number < 0
  · rw [if_pos negative, decide_eq_true negative]
    rfl
  · rw [if_neg negative, decide_eq_false negative]
    obtain ⟨c, rest, same⟩ := List.exists_cons_of_ne_nil
      (show Text.digits number.natAbs ≠ [] from Nat.toDigits_ne_nil)
    rw [same]
    exact splitSign_of_isDigit (isDigit_of_mem_digits (same ▸ List.mem_cons_self)) rest

private theorem onlyDigits?_digits (number : Nat) :
    onlyDigits? (Text.digits number) = some (Text.digits number) := by
  unfold onlyDigits?
  rw [if_pos ⟨Nat.toDigits_ne_nil, List.all_eq_true.mpr fun _ => isDigit_of_mem_digits⟩]

/-- Exponents below the bound are read in full. -/
theorem exponentValue_eq_digitsValue {digits : List Char} (small : digitsValue digits < 2 ^ 16) :
    exponentValue digits = digitsValue digits := by
  induction digits using List.reverseRecOn with
  | nil => rfl
  | append_singleton digits c ih =>
      have grown := digitsValue_append digits [c]
      have prior : digitsValue digits < 2 ^ 16 := by
        rw [List.length_singleton] at grown
        omega
      have last : exponentValue (digits ++ [c]) =
          if exponentValue digits < 2 ^ 16 then 10 * exponentValue digits + digitValue c
          else exponentValue digits := by
        unfold exponentValue
        rw [List.foldl_append]
        rfl
      rw [last, ih prior, if_pos prior, grown]
      simp [digitsValue]

/-- The exponent of a decimal is read back. -/
theorem readExponent?_intChars {exponent : Int} (small : exponent.natAbs < 2 ^ 16) :
    readExponent? ('e' :: Text.intChars exponent) = some exponent := by
  have value : exponentValue (Text.digits exponent.natAbs) = exponent.natAbs := by
    rw [exponentValue_eq_digitsValue (by rwa [digitsValue_digits]), digitsValue_digits]
  simp only [readExponent?, decide_true, Bool.true_or, ↓reduceIte, splitSign_intChars,
    onlyDigits?_digits, Option.map_some, value]
  by_cases negative : exponent < 0
  · simp only [negative, decide_true, ↓reduceIte, Option.some.injEq]
    omega
  · simp only [negative, decide_false, Bool.false_eq_true, ↓reduceIte, Option.some.injEq]
    omega

/-! ## Decimals -/

/-- What is read as a numeral is normal. -/
theorem normal_of_read? {text : List Char} {numeral : Numeral} (read : read? text = some numeral) :
    numeral.Normal := by
  cases parts : splitFraction (text.dropWhile Char.isDigit) with | mk fraction rest =>
  have fractionDigits : ∀ c ∈ fraction, c.isDigit = true := by
    unfold splitFraction at parts
    split at parts
    · cases parts
      exact List.all_eq_true.mp List.all_takeWhile
    · cases parts
      nofun
  simp only [read?, parts] at read
  split at read
  · cases read
  · obtain ⟨exponent, -, rfl⟩ := Option.map_eq_some_iff.mp read
    refine ⟨fun c member => ?_, fun zero => ?_⟩
    · rcases List.mem_append.mp ((List.dropWhile_sublist _).subset member) with inWhole | inFraction
      · exact List.all_eq_true.mp List.all_takeWhile c inWhole
      · exact fractionDigits c inFraction
    · have first := List.head?_dropWhile_not (fun c => decide (c = '0'))
        (text.takeWhile Char.isDigit ++ fraction)
      rw [zero] at first
      exact absurd first (by decide)

section Parts

variable {whole fraction : List Char} (rest : List Char)
  (wholeDigits : ∀ c ∈ whole, c.isDigit = true)
include wholeDigits

private theorem takeWhile_digits (stops : ∀ c ∈ rest.head?, c.isDigit = false) :
    (whole ++ rest).takeWhile Char.isDigit = whole ∧
      (whole ++ rest).dropWhile Char.isDigit = rest := by
  rw [List.takeWhile_append_of_pos wholeDigits, List.dropWhile_append_of_pos wholeDigits]
  cases rest with
  | nil => exact ⟨List.append_nil whole, rfl⟩
  | cons c rest =>
      have stop : ¬c.isDigit = true := by rw [stops c rfl]; exact Bool.false_ne_true
      rw [List.takeWhile_cons_of_neg stop, List.dropWhile_cons_of_neg stop, List.append_nil]
      exact ⟨rfl, rfl⟩

/-- Digits, a point, digits and possibly an exponent. -/
theorem read?_point (fractionDigits : ∀ c ∈ fraction, c.isDigit = true) (nonempty : whole ≠ [])
    (stops : ∀ c ∈ rest.head?, c.isDigit = false) :
    read? (whole ++ '.' :: (fraction ++ rest)) = (readExponent? rest).map fun exponent =>
      ⟨(whole ++ fraction).dropWhile (· = '0'), exponent - fraction.length⟩ := by
  have pointStops : ∀ c ∈ ('.' :: (fraction ++ rest)).head?, c.isDigit = false := by
    rintro c ⟨⟩
    rfl
  obtain ⟨taken, dropped⟩ := takeWhile_digits _ wholeDigits pointStops
  obtain ⟨taken', dropped'⟩ := takeWhile_digits rest fractionDigits stops
  simp only [read?, taken, dropped, splitFraction, taken', dropped', nonempty, false_and,
    ↓reduceIte]

/-- Digits without a point and possibly an exponent. -/
theorem read?_whole (nonempty : whole ≠ []) (stops : ∀ c ∈ rest.head?, c.isDigit = false)
    (pointless : rest.head? ≠ some '.') :
    read? (whole ++ rest) = (readExponent? rest).map fun exponent =>
      ⟨whole.dropWhile (· = '0'), exponent⟩ := by
  obtain ⟨taken, dropped⟩ := takeWhile_digits rest wholeDigits stops
  have unsplit : splitFraction rest = ([], rest) := by
    unfold splitFraction
    split
    · exact absurd rfl pointless
    · rfl
  simp only [read?, taken, dropped, unsplit, nonempty, false_and, ↓reduceIte, List.append_nil,
    List.length_nil, Nat.cast_zero, sub_zero]

end Parts

end Numeral

/-- **Integers read back.** -/
theorem readInt32?_intChars (value : Int32) :
    readInt32? (Text.intChars value.toInt) = some value := by
  have low := value.le_toInt
  have high := value.toInt_lt
  have signed : (if value.toInt < 0 then -(value.toInt.natAbs : Int) else value.toInt.natAbs) =
      value.toInt := by
    split <;> omega
  simp only [readInt32?, Numeral.splitSign_intChars, Numeral.onlyDigits?_digits, Option.bind_some,
    Numeral.digitsValue_digits, decide_eq_true_eq, signed]
  rw [if_pos ⟨low, high⟩, Int32.ofInt_toInt]

/-! ## Written decimals -/

namespace Decimal

/-- The value of a decimal. -/
def value (decimal : Decimal) : ℚ := decimal.digits * 10 ^ decimal.exponent

/-- A decimal other than zero lies between the powers of ten at its leading digit. -/
theorem value_bounds {decimal : Decimal} (nonzero : decimal.digits ≠ 0) :
    (10 : ℚ) ^ decimal.leading ≤ decimal.value ∧
      decimal.value < (10 : ℚ) ^ (decimal.leading + 1) := by
  obtain ⟨number, exponent⟩ := decimal
  obtain ⟨count, length⟩ : ∃ count, (Text.digits number).length = count + 1 :=
    ⟨_, (Nat.succ_pred_eq_of_pos Nat.length_toDigits_pos).symm⟩
  have high : number < 10 ^ (count + 1) :=
    (Nat.length_toDigits_le_iff (by decide) (Nat.succ_pos count)).mp length.le
  have low : 10 ^ count ≤ number := by
    cases count with
    | zero => exact Nat.pos_of_ne_zero nonzero
    | succ count =>
        refine Nat.le_of_not_lt fun less => ?_
        have shorter :=
          (Nat.length_toDigits_le_iff (b := 10) (by decide) (Nat.succ_pos count)).mpr less
        rw [show (Nat.toDigits 10 number).length = count + 1 + 1 from length] at shorter
        omega
  have leading : leading ⟨number, exponent⟩ = exponent + count := by
    simp only [Decimal.leading, length]
    omega
  rw [leading]
  exact Numeral.scaled_bounds low high exponent

/-- Whether a text spells a decimal in a way that is not mistaken for anything else: it reads as a
numeral of the same value, starts with a digit, has no characters but digits, points, exponent marks
and signs, and is not made of digits only. -/
structure Spells (text : List Char) (decimal : Decimal) : Prop where
  /-- The text reads as a numeral of the same value. -/
  reads : ∃ numeral, Numeral.read? text = some numeral ∧ numeral.value = decimal.value
  /-- The text starts with a digit. -/
  starts : ∃ c rest, text = c :: rest ∧ c.isDigit = true
  /-- The text has no other characters. -/
  plain : ∀ c ∈ text, c.isDigit = true ∨ c = '.' ∨ c = 'e' ∨ c = '-'
  /-- The text is not made of digits only. -/
  marked : ∃ c ∈ text, c.isDigit = false

/-- The value of a numeral in terms of the digits it was written with. -/
theorem value_dropZeros (digits : List Char) (exponent : Int) :
    (Numeral.mk (digits.dropWhile (· = '0')) exponent).value =
      Numeral.digitsValue digits * 10 ^ exponent := by
  rw [Numeral.value, Numeral.digitsValue_dropZeros]

/-- Digits, a point and digits spell the decimal of all the digits. -/
theorem spells_point {decimal : Decimal} {whole fraction : List Char}
    (wholeDigits : ∀ c ∈ whole, c.isDigit = true)
    (fractionDigits : ∀ c ∈ fraction, c.isDigit = true) (nonempty : whole ≠ [])
    (same : (Numeral.digitsValue (whole ++ fraction) : ℚ) * 10 ^ (-(fraction.length : Int)) =
      decimal.value) : Spells (whole ++ '.' :: fraction) decimal where
  reads := by
    have read := Numeral.read?_point [] wholeDigits fractionDigits nonempty (by nofun)
    rw [List.append_nil] at read
    refine ⟨_, read, ?_⟩
    rw [value_dropZeros, zero_sub, same]
  starts := by
    obtain ⟨c, rest, rfl⟩ := List.exists_cons_of_ne_nil nonempty
    exact ⟨c, rest ++ '.' :: fraction, rfl, wholeDigits c List.mem_cons_self⟩
  plain := by
    intro c member
    rcases List.mem_append.mp member with inWhole | member
    · exact .inl (wholeDigits c inWhole)
    · rcases List.mem_cons.mp member with point | inFraction
      · exact .inr (.inl point)
      · exact .inl (fractionDigits c inFraction)
  marked := ⟨'.', List.mem_append_right _ List.mem_cons_self, rfl⟩

/-- The digits that positional text has before its point. -/
def wholeChars (decimal : Decimal) : List Char :=
  let digits := Text.digits decimal.digits
  if 0 ≤ decimal.exponent then digits ++ List.replicate decimal.exponent.toNat '0'
  else if decimal.exponent.natAbs < digits.length then
    digits.take (digits.length - decimal.exponent.natAbs)
  else ['0']

/-- The digits that positional text has after its point, if it must have one. -/
def fractionChars (decimal : Decimal) : List Char :=
  let digits := Text.digits decimal.digits
  if 0 ≤ decimal.exponent then []
  else if decimal.exponent.natAbs < digits.length then
    digits.drop (digits.length - decimal.exponent.natAbs)
  else List.replicate (decimal.exponent.natAbs - digits.length) '0' ++ digits

/-- A decimal has as many digits after its point as its exponent is below zero. -/
theorem length_fractionChars (decimal : Decimal) :
    decimal.fractionChars.length = (-decimal.exponent).toNat := by
  simp only [fractionChars]
  split
  · rw [List.length_nil]
    omega
  · split
    · rw [List.length_drop]
      omega
    · rw [List.length_append, List.length_replicate]
      omega

/-- Positional text is put together from these parts. -/
theorem positionalChars_eq (pointZero : Bool) (decimal : Decimal) :
    decimal.positionalChars pointZero = decimal.wholeChars ++
      if decimal.fractionChars = [] then if pointZero then ['.', '0'] else []
      else '.' :: decimal.fractionChars := by
  have length := decimal.length_fractionChars
  by_cases whole : 0 ≤ decimal.exponent
  · have empty : decimal.fractionChars = [] := List.eq_nil_of_length_eq_zero (by omega)
    rw [if_pos empty, wholeChars, if_pos whole, positionalChars, if_pos whole]
  · have nonempty : decimal.fractionChars ≠ [] := List.ne_nil_of_length_pos (by omega)
    rw [if_neg nonempty]
    simp only [positionalChars, wholeChars, fractionChars, if_neg whole]
    split <;> rfl

private theorem isDigit_of_mem_zeros {count : Nat} {c : Char}
    (member : c ∈ List.replicate count '0') :
    c.isDigit = true := by
  rw [List.eq_of_mem_replicate member]
  rfl

/-- Before the point there are digits only. -/
theorem isDigit_of_mem_wholeChars {decimal : Decimal} :
    ∀ c ∈ decimal.wholeChars, c.isDigit = true := by
  intro c member
  simp only [wholeChars] at member
  split at member
  · exact (List.mem_append.mp member).elim Numeral.isDigit_of_mem_digits isDigit_of_mem_zeros
  · split at member
    · exact Numeral.isDigit_of_mem_digits (List.mem_of_mem_take member)
    · rw [List.mem_singleton.mp member]
      rfl

/-- After the point there are digits only. -/
theorem isDigit_of_mem_fractionChars {decimal : Decimal} :
    ∀ c ∈ decimal.fractionChars, c.isDigit = true := by
  intro c member
  simp only [fractionChars] at member
  split at member
  · cases member
  · split at member
    · exact Numeral.isDigit_of_mem_digits (List.mem_of_mem_drop member)
    · exact (List.mem_append.mp member).elim isDigit_of_mem_zeros Numeral.isDigit_of_mem_digits

/-- There is a digit before the point. -/
theorem wholeChars_ne_nil (decimal : Decimal) : decimal.wholeChars ≠ [] := by
  have nonempty : Text.digits decimal.digits ≠ [] := Nat.toDigits_ne_nil
  simp only [wholeChars]
  split
  · exact List.append_ne_nil_of_left_ne_nil nonempty _
  · split
    · rw [Ne, List.take_eq_nil_iff, not_or]
      exact ⟨by omega, nonempty⟩
    · exact List.cons_ne_nil _ _

/-- The digits of positional text count the value of the decimal. -/
theorem digitsValue_positional (decimal : Decimal) :
    (Numeral.digitsValue (decimal.wholeChars ++ decimal.fractionChars) : ℚ) =
      decimal.value * 10 ^ decimal.fractionChars.length := by
  rw [length_fractionChars]
  by_cases whole : 0 ≤ decimal.exponent
  · obtain ⟨count, exponent⟩ := Int.eq_ofNat_of_zero_le whole
    rw [wholeChars, fractionChars, if_pos whole, if_pos whole, List.append_nil,
      Numeral.digitsValue_append, Numeral.digitsValue_digits, Numeral.digitsValue_replicate_zero,
      List.length_replicate, value, exponent, Int.toNat_natCast, zpow_natCast,
      Int.toNat_of_nonpos (by omega), pow_zero, mul_one, Nat.add_zero, mul_comm]
    push_cast
    rfl
  · have places : (10 : ℚ) ^ decimal.exponent * 10 ^ (-decimal.exponent).toNat = 1 := by
      rw [← zpow_natCast, ← zpow_add₀ (by norm_num), Int.toNat_of_nonneg (by omega),
        add_neg_cancel, zpow_zero]
    rw [value, mul_assoc, places, mul_one, wholeChars, fractionChars, if_neg whole, if_neg whole]
    congr 1
    split
    · rw [List.take_append_drop, Numeral.digitsValue_digits]
    · rw [← List.append_assoc, Numeral.digitsValue_append, Numeral.digitsValue_append,
        Numeral.digitsValue_digits, Numeral.digitsValue_replicate_zero,
        show Numeral.digitsValue ['0'] = 0 from rfl, Nat.mul_zero, Nat.mul_zero, Nat.zero_add]

/-- **Positional text.** A decimal is spelled by its positional text. -/
theorem spells_positionalChars (decimal : Decimal) :
    Spells (decimal.positionalChars true) decimal := by
  have counts := decimal.digitsValue_positional
  have unit : (10 : ℚ) ^ decimal.fractionChars.length ≠ 0 := pow_ne_zero _ (by norm_num)
  rw [positionalChars_eq]
  split
  · rename_i empty
    rw [empty, List.append_nil, List.length_nil, pow_zero, mul_one] at counts
    refine spells_point isDigit_of_mem_wholeChars (List.all_eq_true.mp (by decide))
      decimal.wholeChars_ne_nil ?_
    rw [Numeral.digitsValue_append, show Numeral.digitsValue ['0'] = 0 from rfl, ← counts,
      Nat.add_zero, List.length_singleton, Nat.pow_one, Nat.cast_mul, Nat.cast_ofNat, Nat.cast_one,
      zpow_neg_one, mul_right_comm, mul_inv_cancel₀ (by norm_num), one_mul]
  · refine spells_point isDigit_of_mem_wholeChars isDigit_of_mem_fractionChars
      decimal.wholeChars_ne_nil ?_
    rw [counts, zpow_neg, zpow_natCast, mul_assoc, mul_inv_cancel₀ unit, mul_one]

/-- An integer is spelled with digits and a minus sign. -/
theorem plain_of_mem_intChars {number : Int} {c : Char} (member : c ∈ Text.intChars number) :
    c.isDigit = true ∨ c = '-' := by
  unfold Text.intChars at member
  split at member
  · rcases List.mem_cons.mp member with sign | digit
    · exact .inr sign
    · exact .inl (Numeral.isDigit_of_mem_digits digit)
  · exact .inl (Numeral.isDigit_of_mem_digits member)

/-- A leading digit, further digits after a point if there are any, and an exponent spell the
decimal of all the digits. -/
theorem spells_exponent {first : Char} {others : List Char} {exponent : Int}
    (firstDigit : first.isDigit = true) (othersDigits : ∀ c ∈ others, c.isDigit = true)
    (small : exponent.natAbs < 2 ^ 16) {decimal : Decimal}
    (same : (Numeral.digitsValue (first :: others) : ℚ) * 10 ^ (exponent - others.length) =
      decimal.value) :
    Spells (first :: ((if others = [] then [] else '.' :: others) ++ 'e' :: Text.intChars exponent))
      decimal where
  reads := by
    have leadDigit : ∀ c ∈ [first], c.isDigit = true := by
      rintro c (_ | ⟨_, ⟨⟩⟩)
      exact firstDigit
    have mark : ∀ c ∈ ('e' :: Text.intChars exponent).head?, c.isDigit = false := by
      rintro c ⟨⟩
      rfl
    by_cases single : others = []
    · subst single
      have read := Numeral.read?_whole _ leadDigit (List.cons_ne_nil _ _) mark (by simp)
      rw [Numeral.readExponent?_intChars small, Option.map_some] at read
      refine ⟨_, read, ?_⟩
      rw [value_dropZeros, ← same, List.length_nil, Nat.cast_zero, sub_zero]
    · have read := Numeral.read?_point _ leadDigit othersDigits (List.cons_ne_nil _ _) mark
      rw [Numeral.readExponent?_intChars small, Option.map_some] at read
      rw [if_neg single]
      refine ⟨_, read, ?_⟩
      rw [value_dropZeros, List.singleton_append, same]
  starts := ⟨first, _, rfl, firstDigit⟩
  plain := by
    intro c member
    rcases List.mem_cons.mp member with rfl | member
    · exact .inl firstDigit
    rcases List.mem_append.mp member with fraction | member
    · split at fraction
      · cases fraction
      · rcases List.mem_cons.mp fraction with point | digit
        · exact .inr (.inl point)
        · exact .inl (othersDigits c digit)
    rcases List.mem_cons.mp member with mark | member
    · exact .inr (.inr (.inl mark))
    rcases plain_of_mem_intChars member with digit | sign
    · exact .inl digit
    · exact .inr (.inr (.inr sign))
  marked := ⟨'e', List.mem_cons_of_mem _ (List.mem_append_right _ List.mem_cons_self), rfl⟩

/-- **Text with an exponent.** A decimal whose leading digit has a small exponent is spelled by its
scientific text. -/
theorem spells_scientificChars {decimal : Decimal} (small : decimal.leading.natAbs < 2 ^ 16) :
    Spells (decimal.scientificChars false) decimal := by
  obtain ⟨first, others, same⟩ := List.exists_cons_of_ne_nil
    (show Text.digits decimal.digits ≠ [] from Nat.toDigits_ne_nil)
  have digits : ∀ c ∈ first :: others, c.isDigit = true :=
    fun c member => Numeral.isDigit_of_mem_digits (same ▸ member)
  have text : decimal.scientificChars false = first ::
      ((if others = [] then [] else '.' :: others) ++ 'e' :: Text.intChars decimal.leading) := by
    cases others with
    | nil => simp [scientificChars, same]
    | cons second others => simp [scientificChars, same]
  rw [text]
  refine spells_exponent (digits first List.mem_cons_self)
    (fun c member => digits c (List.mem_cons_of_mem first member)) small ?_
  rw [← same, Numeral.digitsValue_digits, value]
  congr 2
  rw [leading, same, List.length_cons]
  omega

end Decimal

end RowQuery
