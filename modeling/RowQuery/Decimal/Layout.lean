import RowQuery.Decimal.Shortest
import RowQuery.Text.Digits

/-! # Layouts of decimal text

A number is written with its shortest digits, either positionally or with an exponent. Which of the
two, and the details of each, are the choices of a layout.
-/

namespace RowQuery

/-- The choices made in writing a number. -/
structure Layout where
  /-- Which of two equally near shortest decimals is written. -/
  tie : Tie
  /-- Whether a number whose leading digit has a given exponent is written positionally. -/
  positional : Int → Bool
  /-- Whether a whole number written positionally ends in `.0`. -/
  pointZero : Bool
  /-- Whether a positive exponent has a plus sign. -/
  plusSign : Bool
  /-- The text of a pattern that is not a number. -/
  notANumber : String
  /-- The text of the infinity of a given sign. -/
  infinite : Bool → String

namespace Decimal

/-- A decimal without exponent, padded with zeros on the side that needs them. -/
def positionalChars (pointZero : Bool) (decimal : Decimal) : List Char :=
  let digits := Text.digits decimal.digits
  if 0 ≤ decimal.exponent then
    digits ++ List.replicate decimal.exponent.toNat '0' ++ (if pointZero then ['.', '0'] else [])
  else
    let places := decimal.exponent.natAbs
    if places < digits.length then
      digits.take (digits.length - places) ++ '.' :: digits.drop (digits.length - places)
    else '0' :: '.' :: List.replicate (places - digits.length) '0' ++ digits

/-- A decimal as one leading digit, the other digits after a point, and an exponent. -/
def scientificChars (plusSign : Bool) (decimal : Decimal) : List Char :=
  let digits := Text.digits decimal.digits
  let fraction := if digits.length ≤ 1 then [] else '.' :: digits.drop 1
  let sign := if plusSign && 0 ≤ decimal.leading then ['+'] else []
  digits.take 1 ++ fraction ++ 'e' :: sign ++ Text.intChars decimal.leading

end Decimal

/-- The text of a number in a layout. -/
def Binary32.render (layout : Layout) (x : Binary32) : String :=
  if x.isNaN then layout.notANumber
  else if x.isInfinite then layout.infinite x.isNegative
  else
    let decimal := x.shortest layout.tie
    let body :=
      if layout.positional decimal.leading then decimal.positionalChars layout.pointZero
      else decimal.scientificChars layout.plusSign
    String.ofList (if x.isNegative then '-' :: body else body)

namespace Layout

/-- The text of an infinity outside JSON. -/
def infinityText (negative : Bool) : String := if negative then "-inf" else "inf"

/-- Numbers in query text: positional from `0.0001` up to, not including, `10 ^ 16`, and never
mistaken for whole numbers. -/
def literal : Layout where
  tie := .up
  positional exponent := -4 ≤ exponent && exponent < 16
  pointZero := true
  plusSign := false
  notANumber := "NaN"
  infinite := infinityText

/-- Numbers in result tables: always positional, and whole numbers without a point. -/
def table : Layout where
  tie := .up
  positional _ := true
  pointZero := false
  plusSign := false
  notANumber := "NaN"
  infinite := infinityText

/-- Numbers in JSON: positional from `0.000001` up to, not including, `10 ^ 13`, with signed
exponents beyond, and `null` for what is not finite. -/
def json : Layout where
  tie := .even
  positional exponent := -6 ≤ exponent && exponent < 13
  pointZero := true
  plusSign := true
  notANumber := "null"
  infinite _ := "null"

end Layout

end RowQuery
