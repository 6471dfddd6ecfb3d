import Mathlib.Data.List.Lex
import Mathlib.Data.String.Basic
import RowQuery.Value

/-! # The order of texts by bytes is that by code points

A code point is encoded as its digits in base 64, most significant first, behind a first byte that
also tells their number (`utf8EncodeChar_eq_spelled`). More digits mean a greater first byte, so a
smaller code point is told from a greater one by its own bytes, whatever comes after them
(`utf8EncodeChar_precedes`). Texts are therefore in the same order by their bytes and by their code
points (`utf8Bytes_lt_iff`), which is the order that text columns are compared by
(`textOrder_eq_lt_iff`).
-/

namespace RowQuery

/-! ## Digits in base 64 -/

/-- Bytes that come before other bytes, whatever follows on either side. -/
def Precedes (left right : List UInt8) : Prop :=
  ∀ leftRest rightRest, left ++ leftRest < right ++ rightRest

private theorem precedes_cons {left right : UInt8} (less : left < right)
    (leftRest rightRest : List UInt8) : Precedes (left :: leftRest) (right :: rightRest) :=
  fun _ _ => List.cons_lt_cons_iff.mpr (.inl less)

/-- What follows a difference does not count. -/
theorem Precedes.append {left right : List UInt8} (precedes : Precedes left right)
    (leftRest rightRest : List UInt8) : Precedes (left ++ leftRest) (right ++ rightRest) := by
  intro leftEnd rightEnd
  rw [List.append_assoc, List.append_assoc]
  exact precedes _ _

/-- What comes before a difference does not count, if it is the same. -/
theorem Precedes.append_left {left right : List UInt8} (precedes : Precedes left right)
    (front : List UInt8) : Precedes (front ++ left) (front ++ right) := by
  intro leftEnd rightEnd
  rw [List.append_assoc, List.append_assoc]
  exact List.append_left_lt (precedes _ _)

private theorem ofNat_lt_ofNat {left right : Nat} (less : left < right) (fits : right < 256) :
    UInt8.ofNat left < UInt8.ofNat right := by
  rw [UInt8.lt_iff_toNat_lt, UInt8.toNat_ofNat', UInt8.toNat_ofNat']
  omega

/-- A number in base 64: a first byte, which is a marker plus what the other digits leave over, and
then the given number of bytes with a digit each. -/
def spelled (marker : Nat) : Nat → Nat → List UInt8
  | 0, number => [UInt8.ofNat (marker + number)]
  | trailing + 1, number =>
    spelled marker trailing (number / 64) ++ [UInt8.ofNat (number % 64 + 0x80)]

private theorem exists_spelled_eq_cons (marker trailing number : Nat) :
    ∃ rest, spelled marker trailing number =
      UInt8.ofNat (marker + number / 64 ^ trailing) :: rest := by
  induction trailing generalizing number with
  | zero => exact ⟨[], by rw [spelled, Nat.pow_zero, Nat.div_one]⟩
  | succ trailing ih =>
      obtain ⟨rest, front⟩ := ih (number / 64)
      refine ⟨rest ++ [UInt8.ofNat (number % 64 + 0x80)], ?_⟩
      rw [spelled, front, Nat.div_div_eq_div_mul, Nat.pow_succ', List.cons_append]

/-- Among numbers with equally many digits the smaller one comes first. -/
theorem spelled_precedes {marker trailing left right : Nat} (less : left < right)
    (fits : marker + right / 64 ^ trailing < 256) :
    Precedes (spelled marker trailing left) (spelled marker trailing right) := by
  induction trailing generalizing left right with
  | zero =>
      rw [Nat.pow_zero, Nat.div_one] at fits
      exact precedes_cons (ofNat_lt_ofNat (Nat.add_lt_add_left less marker) fits) _ _
  | succ trailing ih =>
      rw [Nat.pow_succ', ← Nat.div_div_eq_div_mul] at fits
      rw [spelled, spelled]
      rcases Nat.lt_or_ge (left / 64) (right / 64) with earlier | same
      · exact (ih earlier fits).append _ _
      · -- Only the last digits differ.
        have equal : left / 64 = right / 64 := by omega
        rw [equal]
        exact (precedes_cons (ofNat_lt_ofNat (by omega) (by omega)) _ _).append_left _

/-! ## Characters -/

/-- The number of bytes after the first one in the encoding of a code point. -/
def trailingBytes (number : Nat) : Nat :=
  if number ≤ 0x7f then 0 else if number ≤ 0x7ff then 1 else if number ≤ 0xffff then 2 else 3

/-- The marker of a first byte that a given number of bytes follow. -/
def leadMarker : Nat → Nat
  | 0 => 0
  | 1 => 0xc0
  | 2 => 0xe0
  | _ => 0xf0

/-- The first byte in the encoding of a code point. -/
def leadByte (number : Nat) : Nat :=
  leadMarker (trailingBytes number) + number / 64 ^ trailingBytes number

private theorem toNat_val_lt (c : Char) : c.val.toNat < 0x110000 := by
  rcases c.valid with low | high
  · exact Nat.lt_trans low (by decide)
  · exact high.2

/-- The bytes of a character are its lead byte and the digits to base 64 after it. -/
theorem utf8EncodeChar_eq_spelled (c : Char) :
    String.utf8EncodeChar c =
      spelled (leadMarker (trailingBytes c.val.toNat)) (trailingBytes c.val.toNat) c.val.toNat := by
  have bounded := toNat_val_lt c
  unfold String.utf8EncodeChar trailingBytes
  generalize c.val.toNat = number at bounded
  dsimp only
  -- The first byte has room for all that the other digits leave over, so nothing is cut off there.
  split_ifs <;> simp only [spelled, leadMarker, List.cons_append, List.nil_append]
  · rw [Nat.zero_add]
  · rw [show number / 64 % 0x20 + 0xc0 = 0xc0 + number / 64 by omega]
  · rw [show number / 4096 % 0x10 + 0xe0 = 0xe0 + number / 64 / 64 by omega]
  · rw [show number / 262144 % 0x08 + 0xf0 = 0xf0 + number / 64 / 64 / 64 by omega,
      show number / 4096 = number / 64 / 64 by omega]

private theorem leadByte_lt {number : Nat} (bounded : number < 0x110000) :
    leadByte number < 256 := by
  unfold leadByte trailingBytes
  split_ifs <;> simp only [leadMarker] <;> omega

/-- A code point with more digits has a greater first byte. -/
theorem leadByte_lt_leadByte {left right : Nat} (less : left < right)
    (different : trailingBytes left ≠ trailingBytes right) (bounded : right < 0x110000) :
    leadByte left < leadByte right := by
  unfold leadByte
  unfold trailingBytes at different ⊢
  split_ifs at different ⊢ <;> simp only [leadMarker] <;> omega

/-- **Smaller characters come first.** The bytes of a character come before those of a greater one
at a byte that both have. -/
theorem utf8EncodeChar_precedes {c d : Char} (less : c < d) :
    Precedes (String.utf8EncodeChar c) (String.utf8EncodeChar d) := by
  have numbers : c.val.toNat < d.val.toNat := less
  have bounded := toNat_val_lt d
  rw [utf8EncodeChar_eq_spelled, utf8EncodeChar_eq_spelled]
  by_cases same : trailingBytes c.val.toNat = trailingBytes d.val.toNat
  · rw [same]
    exact spelled_precedes numbers (leadByte_lt bounded)
  · obtain ⟨rest, first⟩ := exists_spelled_eq_cons (leadMarker (trailingBytes c.val.toNat))
      (trailingBytes c.val.toNat) c.val.toNat
    obtain ⟨rest', first'⟩ := exists_spelled_eq_cons (leadMarker (trailingBytes d.val.toNat))
      (trailingBytes d.val.toNat) d.val.toNat
    rw [first, first']
    exact precedes_cons
      (ofNat_lt_ofNat (leadByte_lt_leadByte numbers same bounded) (leadByte_lt bounded)) _ _

/-! ## Texts -/

/-- The bytes of texts are in the order of their characters. -/
theorem flatMap_utf8EncodeChar_lt {left right : List Char} (less : left < right) :
    left.flatMap String.utf8EncodeChar < right.flatMap String.utf8EncodeChar := by
  -- The induction is on the characters before the first difference.
  induction less with
  | @nil c rest =>
      obtain ⟨first, others, encoded⟩ := List.exists_cons_of_ne_nil
        (String.utf8EncodeChar_ne_nil (c := c))
      rw [List.flatMap_nil, List.flatMap_cons, encoded, List.cons_append]
      exact List.nil_lt_cons _ _
  | rel smaller =>
      rw [List.flatMap_cons, List.flatMap_cons]
      exact utf8EncodeChar_precedes smaller _ _
  | cons _ ih =>
      rw [List.flatMap_cons, List.flatMap_cons]
      exact List.append_left_lt ih

/-- The code points of a text. -/
def codePoints (text : String) : List Nat := text.toList.map Char.toNat

private theorem map_toNat_lt {left right : List Char} (less : left < right) :
    left.map Char.toNat < right.map Char.toNat :=
  List.map_lt (fun _ _ => id) less

/-- A map that keeps the order of lists of characters also reflects it. -/
theorem lt_iff_lt_of_grows {α : Type} [LT α] [Std.Asymm (fun x y : α => x < y)]
    {image : List Char → List α} (grows : ∀ {left right}, left < right → image left < image right)
    (left right : List Char) : image left < image right ↔ left < right := by
  refine ⟨fun less => ?_, grows⟩
  rcases lt_trichotomy left right with below | rfl | above
  · exact below
  · exact absurd less (List.lt_asymm less)
  · exact absurd less (List.lt_asymm (grows above))

/-- **Bytes and code points.** Texts are in the same order by their bytes and by their code
points. -/
theorem utf8Bytes_lt_iff (left right : String) :
    utf8Bytes left < utf8Bytes right ↔ codePoints left < codePoints right := by
  rw [utf8Bytes, utf8Bytes, codePoints, codePoints, lt_iff_lt_of_grows flatMap_utf8EncodeChar_lt,
    lt_iff_lt_of_grows map_toNat_lt]

/-- These are the bytes of a text in UTF-8. -/
theorem utf8Bytes_eq_toUTF8 (text : String) : utf8Bytes text = text.toUTF8.data.toList := by
  rw [String.toUTF8_eq_toByteArray, ← String.utf8Encode_toList]
  exact List.toList_data_toByteArray.symm

/-- A text is determined by its bytes. -/
theorem utf8Bytes_injective : Function.Injective utf8Bytes := by
  intro left right same
  rw [utf8Bytes_eq_toUTF8, utf8Bytes_eq_toUTF8, Array.toList_inj] at same
  exact String.toByteArray_inj.mp (ByteArray.ext same)

/-! ## Comparison -/

private theorem compare_bytes_eq_lt_iff (left right : List UInt8) :
    compare left right = .lt ↔ left < right := by
  induction left generalizing right with
  | nil =>
      cases right with
      | nil => simp
      | cons byte rest => simp
  | cons byte rest ih =>
      cases right with
      | nil => simp
      | cons byte' rest' =>
          rw [List.compare_cons_cons, Ordering.then_eq_lt, List.cons_lt_cons_iff, ih,
            Std.compare_eq_lt, Std.LawfulEqOrd.compare_eq_iff_eq]

/-- Texts are ordered by their bytes, and an absent one comes first. -/
theorem textOrder_eq_compare (left right : Option String) :
    textOrder left right = compare (left.map utf8Bytes) (right.map utf8Bytes) := by
  cases left <;> cases right <;> rfl

/-- One text comes before another if its bytes do. -/
theorem textOrder_eq_lt_iff (left right : String) :
    textOrder (some left) (some right) = .lt ↔ utf8Bytes left < utf8Bytes right :=
  compare_bytes_eq_lt_iff _ _

/-- Texts that are neither before nor after each other are the same. -/
theorem eq_of_textOrder {left right : Option String} (equal : textOrder left right = .eq) :
    left = right := by
  rw [textOrder_eq_compare] at equal
  exact Option.map_injective utf8Bytes_injective (Std.LawfulEqOrd.eq_of_compare equal)

end RowQuery
