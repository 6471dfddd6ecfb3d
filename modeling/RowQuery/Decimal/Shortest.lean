import RowQuery.Binary32
import RowQuery.Text.Digits

/-! # Shortest decimals

Among the decimals that round to a given number, the ones with the fewest digits, and of those the
nearest. The reals that round to a number form an interval around it, closed exactly when its
significand is even; the grids of one digit, two digits and so on are searched in turn for a point
of that interval next to the number.
-/

namespace RowQuery

/-- A nonnegative decimal `digits * 10 ^ exponent`. -/
structure Decimal where
  /-- The digits, read as one whole number. -/
  digits : Nat
  /-- The power of ten that the last digit counts. -/
  exponent : Int
  deriving DecidableEq

/-- Which of two equally near decimals is taken. -/
inductive Tie where
  /-- The larger one. -/
  | up
  /-- The one whose last digit is even. -/
  | even
  deriving DecidableEq

/-- Whether the point above a quotient's whole part is taken rather than the whole part itself, when
both may be. -/
def Tie.upward (tie : Tie) (numerator denominator : Nat) : Bool :=
  match compare (2 * (numerator % denominator)) denominator, tie with
  | .gt, _ => true
  | .lt, _ => false
  | .eq, .up => true
  | .eq, .even => numerator / denominator % 2 = 1

namespace Decimal

/-- The exponent of the leading digit. -/
def leading (decimal : Decimal) : Int :=
  decimal.exponent + ((Text.digits decimal.digits).length : Int) - 1

/-- The decimal of the same value without its final zero digits, of which there are at most
`bound`. -/
def dropZeros : (bound : Nat) → Decimal → Decimal
  | 0, decimal => decimal
  | bound + 1, decimal =>
    if decimal.digits % 10 = 0 then dropZeros bound ⟨decimal.digits / 10, decimal.exponent + 1⟩
    else decimal

/-- The decimal of the same nonzero value that does not end in a zero digit. -/
def trim (decimal : Decimal) : Decimal :=
  dropZeros ((Text.digits decimal.digits).length - 1) decimal

end Decimal

namespace Binary32

/-- The four quantities, all in quarters of a unit, that bound the reals rounding to a number:
its lower and upper limits, and whether the limits themselves round to it. The gap below a power of
two is half the gap above it. -/
structure Reach where
  /-- The lower limit, in quarters of a unit. -/
  lower : Nat
  /-- The upper limit, in quarters of a unit. -/
  upper : Nat
  /-- Whether the limits belong to the interval. -/
  closed : Bool

/-- The interval of reals that round to a finite number's magnitude. -/
def reach (x : Binary32) : Reach where
  lower := 4 * x.units - (if x.significand = 0x800000 then 1 else 2) * Nat.pow 2 x.shift
  upper := 4 * x.units + 2 * Nat.pow 2 x.shift
  closed := x.significand % 2 = 0

/-- A finite magnitude divided by `10 ^ exponent`, as a quotient of natural numbers. -/
def ratioTo (x : Binary32) (exponent : Int) : Nat × Nat :=
  (x.units * Nat.pow 10 (-exponent).toNat, Nat.pow 2 149 * Nat.pow 10 exponent.toNat)

/-- Whether `digits * 10 ^ exponent` rounds to the magnitude. -/
def admits (x : Binary32) (digits : Nat) (exponent : Int) : Bool :=
  let factor := Nat.pow 10 (-exponent).toNat
  let point := 4 * digits * (Nat.pow 2 149 * Nat.pow 10 exponent.toNat)
  let reach := x.reach
  if reach.closed then reach.lower * factor ≤ point && point ≤ reach.upper * factor
  else reach.lower * factor < point && point < reach.upper * factor

/-- The exponent of the leading decimal digit of a nonzero finite magnitude, searched downwards
from `bound` for at most `fuel` steps. -/
def leadingFrom (x : Binary32) : Nat → Int → Int
  | 0, bound => bound
  | fuel + 1, bound =>
    let (numerator, denominator) := x.ratioTo bound
    if denominator ≤ numerator then bound else leadingFrom x fuel (bound - 1)

/-- The exponent of the leading decimal digit of a nonzero finite magnitude; all of them lie
between -45 and 38. -/
def leadingExponent (x : Binary32) : Int := x.leadingFrom 83 38

/-- One of the two points on the grid of `10 ^ exponent` around a quotient of it, given whether the
lower and the upper one may be taken; nothing if neither may. -/
def gridPoint? (tie : Tie) (numerator denominator : Nat) (exponent : Int) :
    (lower upper : Bool) → Option Decimal
  | true, true =>
    some ⟨numerator / denominator + if tie.upward numerator denominator then 1 else 0, exponent⟩
  | true, false => some ⟨numerator / denominator, exponent⟩
  | false, true => some ⟨numerator / denominator + 1, exponent⟩
  | false, false => none

/-- The decimal on the grid of `10 ^ exponent` that rounds to the magnitude and is nearest to it,
if there is one. -/
def nearestOn? (tie : Tie) (x : Binary32) (exponent : Int) : Option Decimal :=
  let ratio := x.ratioTo exponent
  let below := ratio.1 / ratio.2
  gridPoint? tie ratio.1 ratio.2 exponent (x.admits below exponent) (x.admits (below + 1) exponent)

/-- The shortest decimal, searched from the grid of `10 ^ exponent` to finer ones. -/
def shortestFrom (tie : Tie) (x : Binary32) : Nat → Int → Decimal
  | 0, exponent => ⟨(x.ratioTo exponent).1 / (x.ratioTo exponent).2, exponent⟩
  | fuel + 1, exponent =>
    (x.nearestOn? tie exponent).getD (shortestFrom tie x fuel (exponent - 1))

/-- The shortest decimal that rounds to a finite magnitude, nine digits at most. -/
def shortest (tie : Tie) (x : Binary32) : Decimal :=
  if x.magnitude = 0 then ⟨0, 0⟩ else (x.shortestFrom tie 9 x.leadingExponent).trim

end Binary32

end RowQuery
