import Mathlib.Algebra.Group.Nat.Defs
import Mathlib.Order.Monotone.Basic
import RowQuery.Binary32

/-! # The order of floating-point numbers is that of their values

Patterns are ordered by their magnitudes, as whole numbers of 31 bits. The values they stand for,
counted in units of the smallest subnormal, grow strictly with the magnitude (`unitsAt_strictMono`),
so the order of patterns is the order of values, with the patterns that are not numbers at the
bottom (`order_eq_compare_number?`).
-/

namespace RowQuery.Binary32

/-- The number of units that a magnitude pattern stands for. -/
def unitsAt (pattern : Nat) : Nat :=
  (pattern - (pattern / 0x800000 - 1) * 0x800000) * 2 ^ (pattern / 0x800000 - 1)

/-- The units of a float are those of its pattern without the sign. -/
theorem units_eq_unitsAt (x : Binary32) : x.units = unitsAt x.magnitude := rfl

/-- Within a binade the next pattern is one unit in the last place higher; at its end the doubled
unit of the next binade makes up for the halved significand. -/
theorem unitsAt_succ (pattern : Nat) :
    unitsAt (pattern + 1) = unitsAt pattern + 2 ^ (pattern / 0x800000 - 1) := by
  unfold unitsAt
  by_cases same : (pattern + 1) / 0x800000 = pattern / 0x800000
  · rw [same]
    have positive : (pattern / 0x800000 - 1) * 0x800000 ≤ pattern := by omega
    rw [Nat.sub_add_comm positive, Nat.add_mul, Nat.one_mul]
  · have after : (pattern + 1) / 0x800000 = pattern / 0x800000 + 1 := by omega
    have last : pattern + 1 = (pattern / 0x800000 + 1) * 0x800000 := by omega
    rw [after, Nat.add_sub_cancel]
    generalize pattern / 0x800000 = binade at last
    cases binade with
    | zero =>
        simp only [Nat.zero_sub, Nat.zero_mul, Nat.sub_zero, Nat.pow_zero, Nat.mul_one]
    | succ exponent =>
        have high : pattern + 1 - (exponent + 1) * 0x800000 = 0x800000 := by omega
        have low : pattern - exponent * 0x800000 = 2 ^ 24 - 1 := by omega
        rw [high, Nat.add_sub_cancel, low, Nat.pow_succ]
        omega

/-- Greater patterns stand for greater values. -/
theorem unitsAt_strictMono : StrictMono unitsAt :=
  strictMono_nat_of_lt_succ fun pattern => by
    rw [unitsAt_succ]
    exact Nat.lt_add_of_pos_right (Nat.two_pow_pos _)

/-- The value of a number in units of the smallest subnormal, the infinities beyond all others;
nothing if the pattern is not a number. -/
def number? (x : Binary32) : Option Int :=
  if x.isNaN then none
  else if x.isNegative then some (-(x.units : Int))
  else some x.units

/-- The value of a signed magnitude. -/
def signedUnits (key : Int) : Int :=
  if key < 0 then -(unitsAt key.natAbs : Int) else unitsAt key.natAbs

/-- Greater signed magnitudes stand for greater values. -/
theorem signedUnits_lt {left right : Int} (less : left < right) :
    signedUnits left < signedUnits right := by
  have positive := unitsAt_strictMono.lt_iff_lt (a := 0) (b := left.natAbs)
  have above := unitsAt_strictMono.lt_iff_lt (a := right.natAbs) (b := left.natAbs)
  have below := unitsAt_strictMono.lt_iff_lt (a := left.natAbs) (b := right.natAbs)
  have zero : unitsAt 0 = 0 := rfl
  unfold signedUnits
  split <;> split <;> omega

/-- The value of a number is that of its order key. -/
theorem number?_eq_map_orderKey? (x : Binary32) : x.number? = x.orderKey?.map signedUnits := by
  unfold number? orderKey?
  by_cases undefined : x.isNaN
  · simp only [undefined, ↓reduceIte, Option.map_none]
  · by_cases negative : x.isNegative
    · simp only [undefined, negative, ↓reduceIte, Option.map_some, signedUnits, units_eq_unitsAt,
        Int.natAbs_neg, Int.natAbs_natCast, Bool.false_eq_true]
      split
      · rfl
      · have zero : x.magnitude = 0 := by omega
        rw [zero]
        rfl
    · simp only [undefined, negative, ↓reduceIte, Option.map_some, signedUnits, units_eq_unitsAt,
        Int.natAbs_natCast, Bool.false_eq_true]
      rw [if_neg (by omega)]

/-- **Order by value.** Numbers are compared by the values they stand for, and a pattern that is
not a number comes before every number. -/
theorem order_eq_compare_number? (x y : Binary32) :
    x.order y = compare x.number? y.number? := by
  rw [number?_eq_map_orderKey?, number?_eq_map_orderKey?]
  unfold order
  cases x.orderKey? <;> cases y.orderKey?
  · rfl
  · rfl
  · rfl
  · rename_i left right
    have grows : StrictMono signedUnits := fun _ _ => signedUnits_lt
    calc compare left right = cmp left right := (cmp_eq_compare left right).symm
      _ = cmp (signedUnits left) (signedUnits right) := (grows.cmp_map_eq left right).symm
      _ = compare (signedUnits left) (signedUnits right) := cmp_eq_compare _ _

end RowQuery.Binary32
