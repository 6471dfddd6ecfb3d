import RowQuery.Binary32

/-! # Reading numbers

A whole number is an optional sign and digits. A decimal number has digits with at most one point
among or around them and an optional exponent; infinity and the absent number have names. Only the
digits `0` to `9` count as digits.
-/

namespace RowQuery

/-- A decimal as written: its digits, without leading zeros, and the power of ten that the last
digit counts. -/
structure Numeral where
  /-- The digits, none for zero. -/
  digits : List Char
  /-- The power of ten that the last digit counts. -/
  exponent : Int
  deriving DecidableEq

namespace Numeral

/-- The exponent of the leading digit. -/
def leading (numeral : Numeral) : Int := numeral.exponent + numeral.digits.length - 1

/-- The value of a digit character. -/
def digitValue (c : Char) : Nat := c.toNat - '0'.toNat

/-- The whole number that some digits spell. -/
def digitsValue (digits : List Char) : Nat :=
  digits.foldl (fun value c => 10 * value + digitValue c) 0

/-- The whole number that the digits of an exponent spell; digits after the value has reached
`0x10000` are passed over. -/
def exponentValue (digits : List Char) : Nat :=
  digits.foldl (fun value c => if value < 0x10000 then 10 * value + digitValue c else value) 0

/-- A leading sign, if any, and what follows it. -/
def splitSign : List Char → Bool × List Char
  | '-' :: rest => (true, rest)
  | '+' :: rest => (false, rest)
  | text => (false, text)

/-- Digits and nothing else, at least one. -/
def onlyDigits? (text : List Char) : Option (List Char) :=
  if text ≠ [] ∧ text.all Char.isDigit then some text else none

/-- The exponent that ends a decimal: zero when nothing is left. -/
def readExponent? : List Char → Option Int
  | [] => some 0
  | mark :: rest =>
    if mark = 'e' || mark = 'E' then
      let (negative, digits) := splitSign rest
      (onlyDigits? digits).map fun digits =>
        if negative then -(exponentValue digits : Int) else exponentValue digits
    else none

/-- The digits after a point, if the text starts with one, and what follows them. -/
def splitFraction : List Char → List Char × List Char
  | '.' :: rest => (rest.takeWhile Char.isDigit, rest.dropWhile Char.isDigit)
  | text => ([], text)

/-- An unsigned decimal, as written. -/
def read? (text : List Char) : Option Numeral :=
  let whole := text.takeWhile Char.isDigit
  let (fraction, rest) := splitFraction (text.dropWhile Char.isDigit)
  if whole = [] ∧ fraction = [] then none
  else (readExponent? rest).map fun exponent =>
    ⟨(whole ++ fraction).dropWhile (· = '0'), exponent - fraction.length⟩

end Numeral

/-- An integer of 32 bits: an optional sign and digits whose value is in range. -/
def readInt32? (text : List Char) : Option Int32 :=
  let (negative, digits) := Numeral.splitSign text
  (Numeral.onlyDigits? digits).bind fun digits =>
    let value : Int :=
      if negative then -(Numeral.digitsValue digits : Int) else Numeral.digitsValue digits
    if -0x80000000 ≤ value ∧ value < 0x80000000 then some (Int32.ofInt value) else none

namespace Binary32

/-- The number nearest to a decimal. Magnitudes of `10 ^ 39` and above are infinite and those below
`10 ^ -46` are zero, whatever their digits. -/
def ofNumeral (negative : Bool) (numeral : Numeral) : Binary32 :=
  if numeral.digits = [] ∨ numeral.leading < -46 then ofMagnitude negative 0
  else if 38 < numeral.leading then infinity negative
  else ofRatio negative (Numeral.digitsValue numeral.digits * Nat.pow 10 numeral.exponent.toNat)
    (Nat.pow 10 (-numeral.exponent).toNat)

/-- The named numbers that are not decimals, whatever the case of their letters. The sign is kept by
all of them. -/
def readName? (negative : Bool) (text : List Char) : Option Binary32 :=
  let name := text.map Char.toLower
  if name = ['i', 'n', 'f'] || name = ['i', 'n', 'f', 'i', 'n', 'i', 't', 'y'] then
    some (infinity negative)
  else if name = ['n', 'a', 'n'] then some (ofMagnitude negative nan.magnitude)
  else none

/-- A signed decimal, rounded to the nearest number, or a named number. -/
def read? (text : List Char) : Option Binary32 :=
  let (negative, body) := Numeral.splitSign text
  match Numeral.read? body with
  | some numeral => some (ofNumeral negative numeral)
  | none => readName? negative body

end Binary32

end RowQuery
