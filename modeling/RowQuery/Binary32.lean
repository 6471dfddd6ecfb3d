/-! # Single-precision floating-point numbers

A number is its 32-bit interchange pattern: a sign bit, eight exponent bits and 23 fraction bits.
Every finite magnitude is a whole number of units of `2 ^ -149`, the smallest subnormal, so order,
rounding and decimal text are all exact arithmetic on natural numbers.
-/

namespace RowQuery

/-- A single-precision number, given by its bit pattern. -/
structure Binary32 where
  /-- The interchange pattern, sign bit first. -/
  bits : UInt32
  deriving DecidableEq

namespace Binary32

/-- The magnitude pattern of infinity; every larger magnitude pattern is not a number. -/
def infinityPattern : Nat := 0x7f800000

/-- Whether the sign bit is set. -/
def isNegative (x : Binary32) : Bool := 0x80000000 ≤ x.bits.toNat

/-- The pattern without its sign bit. -/
def magnitude (x : Binary32) : Nat := x.bits.toNat % 0x80000000

/-- Whether the pattern stands for no number. -/
def isNaN (x : Binary32) : Bool := infinityPattern < x.magnitude

/-- Whether the pattern is one of the two infinities. -/
def isInfinite (x : Binary32) : Bool := x.magnitude = infinityPattern

/-- The binary exponent above that of the smallest subnormal: one unit in the last place of a
finite number is `2 ^ shift` units. -/
def shift (x : Binary32) : Nat := x.magnitude / 0x800000 - 1

/-- The significand, with the leading bit that normal numbers leave implicit. -/
def significand (x : Binary32) : Nat := x.magnitude - x.shift * 0x800000

/-- A finite magnitude counted in units of `2 ^ -149`. -/
def units (x : Binary32) : Nat := x.significand * Nat.pow 2 x.shift

/-- The number with a given sign and magnitude pattern. -/
def ofMagnitude (negative : Bool) (magnitude : Nat) : Binary32 :=
  ⟨UInt32.ofNat (if negative then 0x80000000 + magnitude else magnitude)⟩

/-- The quiet pattern that stands for no number. -/
def nan : Binary32 := ofMagnitude false 0x7fc00000

/-- The infinity of a given sign. -/
def infinity (negative : Bool) : Binary32 := ofMagnitude negative infinityPattern

/-- A quotient rounded to the nearest whole number, a half going to the even neighbour. -/
def roundHalfEven (numerator denominator : Nat) : Nat :=
  let floor := numerator / denominator
  let twice := 2 * (numerator % denominator)
  if twice < denominator then floor
  else if denominator < twice then floor + 1
  else if floor % 2 = 0 then floor else floor + 1

/-- The magnitude pattern nearest to a nonnegative quotient, a half going to the even pattern;
quotients beyond the largest finite number give infinity.

With `shift` the excess of the quotient's bits over 24, the rounded significand added to
`shift * 0x800000` is the pattern, and a carry out of the significand lands in the exponent. -/
def nearestMagnitude (numerator denominator : Nat) : Nat :=
  let scaled := numerator * Nat.pow 2 149
  let shift := (scaled / denominator).log2 - 23
  min (shift * 0x800000 + roundHalfEven scaled (denominator * Nat.pow 2 shift)) infinityPattern

/-- The number nearest to a signed quotient. -/
def ofRatio (negative : Bool) (numerator denominator : Nat) : Binary32 :=
  ofMagnitude negative (nearestMagnitude numerator denominator)

/-- The number nearest to an integer. -/
def ofInt (value : Int) : Binary32 := ofRatio (value < 0) value.natAbs 1

/-- A key that orders numbers by value; it is absent when the pattern is not a number. -/
def orderKey? (x : Binary32) : Option Int :=
  if x.isNaN then none
  else if x.isNegative then some (-(x.magnitude : Int))
  else some x.magnitude

/-- The total order by value: every pattern that is not a number is equal to every other such
pattern and below all numbers, and the two zeros are equal. -/
def order (x y : Binary32) : Ordering :=
  match x.orderKey?, y.orderKey? with
  | none, none => .eq
  | none, some _ => .lt
  | some _, none => .gt
  | some left, some right => compare left right

/-- Equality of value, which a pattern that is not a number has with nothing. -/
def sameNumber (x y : Binary32) : Bool :=
  match x.orderKey?, y.orderKey? with
  | some left, some right => left = right
  | _, _ => false

end Binary32

end RowQuery
