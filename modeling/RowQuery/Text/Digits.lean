/-! # Whole numbers as text -/

namespace RowQuery.Text

/-- The decimal digits of a number. -/
def digits (number : Nat) : List Char := Nat.toDigits 10 number

/-- A natural number in decimal digits. -/
def natText (number : Nat) : String := String.ofList (digits number)

/-- The characters of an integer: a minus sign if it is negative, and decimal digits. -/
def intChars (number : Int) : List Char :=
  if number < 0 then '-' :: digits number.natAbs else digits number.natAbs

/-- An integer in decimal digits, with a minus sign if it is negative. -/
def intText (number : Int) : String := String.ofList (intChars number)

end RowQuery.Text
