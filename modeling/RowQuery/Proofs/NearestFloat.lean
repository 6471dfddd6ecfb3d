import Mathlib.Algebra.Order.Field.Rat
import Mathlib.Tactic.FieldSimp
import Mathlib.Tactic.Linarith
import Mathlib.Tactic.Ring
import RowQuery.Decimal.Shortest

/-! # Rounding to the nearest number

A quotient inside the reach of a number rounds to it (`nearestMagnitude_of_contains`). The reach of
a power of two is narrower below than above, since the numbers there lie closer together, and a
quotient in the lower part of it is rounded with the finer unit.
-/

namespace RowQuery.Binary32

/-! ## Rounding a quotient -/

/-- A quotient within half a unit of a whole number rounds to it, if the number is even where the
distance is exactly a half. -/
theorem roundHalfEven_eq {numerator denominator whole : Nat} (positive : 0 < denominator)
    (low : 2 * (whole * denominator) ≤ 2 * numerator + denominator)
    (high : 2 * numerator ≤ 2 * (whole * denominator) + denominator)
    (tie : 2 * (whole * denominator) = 2 * numerator + denominator ∨
      2 * numerator = 2 * (whole * denominator) + denominator → whole % 2 = 0) :
    roundHalfEven numerator denominator = whole := by
  have parts := Nat.div_add_mod numerator denominator
  have small := Nat.mod_lt numerator positive
  -- The whole number is the floor or the number after it: two numbers further the bounds fail.
  have candidates : whole = numerator / denominator ∨ whole = numerator / denominator + 1 := by
    generalize numerator / denominator = floor at parts
    rcases Nat.lt_trichotomy whole floor with below | same | above
    · have gap := Nat.mul_le_mul_right denominator below
      rw [Nat.succ_mul, Nat.mul_comm floor] at gap
      omega
    · exact .inl same
    · rcases Nat.lt_or_ge whole (floor + 2) with near | far
      · exact .inr (by omega)
      · have gap := Nat.mul_le_mul_right denominator far
        rw [Nat.add_mul, Nat.mul_comm floor] at gap
        omega
  simp only [roundHalfEven]
  rcases candidates with rfl | rfl
  · rw [Nat.mul_comm (numerator / denominator)] at low high tie
    split
    · rfl
    · split
      · omega
      · rw [if_pos (tie (by omega))]
  · rw [Nat.succ_mul (numerator / denominator), Nat.mul_comm (numerator / denominator)]
      at low high tie
    split
    · omega
    · split
      · rfl
      · have even := tie (by omega)
        rw [if_neg (by omega)]

/-- The excess of a quotient's bits over 24 is at most `shift` below `2 ^ (24 + shift)`. -/
theorem excess_le {scaled denominator shift : Nat} (positive : 0 < denominator)
    (below : scaled < 2 ^ (24 + shift) * denominator) :
    (scaled / denominator).log2 - 23 ≤ shift := by
  have quotient := (Nat.div_lt_iff_lt_mul positive).mpr below
  rcases Nat.eq_zero_or_pos (scaled / denominator) with zero | nonzero
  · rw [zero]
    exact Nat.zero_le shift
  · have bits := (Nat.log2_lt (Nat.ne_of_gt nonzero)).mpr quotient
    omega

/-- The excess is at least `shift` from `2 ^ (23 + shift)` on. -/
theorem le_excess {scaled denominator shift : Nat} (positive : 0 < denominator)
    (above : 2 ^ (23 + shift) * denominator ≤ scaled) :
    shift ≤ (scaled / denominator).log2 - 23 := by
  have quotient := (Nat.le_div_iff_mul_le positive).mpr above
  have nonzero : scaled / denominator ≠ 0 :=
    Nat.ne_of_gt (Nat.lt_of_lt_of_le (Nat.two_pow_pos _) quotient)
  have bits := (Nat.le_log2 nonzero).mpr quotient
  omega

/-- **Rounding to a pattern.** A quotient rounds to the pattern of a significand and a shift if it
lies within half a unit of the significand; below the least significand of a shift, where the
numbers lie twice as close, within a quarter. -/
theorem rounded_eq {scaled denominator significand shift : Nat}
    (positive : 0 < denominator) (small : significand < 2 ^ 24)
    (normal : 0 < shift → 0x800000 ≤ significand)
    (low : 4 * (significand * (2 ^ shift * denominator)) ≤
      4 * scaled + (if significand = 0x800000 then 1 else 2) * (2 ^ shift * denominator))
    (high : 2 * scaled ≤ 2 * (significand * (2 ^ shift * denominator)) + 2 ^ shift * denominator)
    (tie : 2 * (significand * (2 ^ shift * denominator)) = 2 * scaled + 2 ^ shift * denominator ∨
      2 * scaled = 2 * (significand * (2 ^ shift * denominator)) + 2 ^ shift * denominator →
      significand % 2 = 0) :
    ((scaled / denominator).log2 - 23) * 0x800000 +
        roundHalfEven scaled (denominator * 2 ^ ((scaled / denominator).log2 - 23)) =
      shift * 0x800000 + significand := by
  have unit : 0 < 2 ^ shift * denominator := Nat.mul_pos (Nat.two_pow_pos shift) positive
  have widest : scaled < 2 ^ (24 + shift) * denominator := by
    rw [Nat.pow_add, Nat.mul_assoc]
    have bound := Nat.mul_le_mul_right (2 ^ shift * denominator) (Nat.succ_le_of_lt small)
    rw [Nat.succ_mul] at bound
    omega
  have fewest := excess_le positive widest
  rcases Nat.lt_or_ge ((scaled / denominator).log2 - 23) shift with finer | coarse
  · -- Only just below the least significand of the shift is a finer unit used.
    obtain ⟨shift, rfl⟩ : ∃ less, shift = less + 1 := ⟨shift - 1, by omega⟩
    have least := normal (Nat.succ_pos shift)
    have below : scaled < 0x800000 * (2 ^ (shift + 1) * denominator) := by
      rw [show 0x800000 = 2 ^ 23 from rfl, ← Nat.mul_assoc, ← Nat.pow_add]
      exact Nat.lt_of_not_le fun above => Nat.not_le.mpr finer (le_excess positive above)
    have exact : significand = 0x800000 := by
      refine Nat.le_antisymm (Nat.le_of_not_lt fun more => ?_) least
      rw [if_neg (Nat.ne_of_gt more)] at low
      have bound := Nat.mul_le_mul_right (2 ^ (shift + 1) * denominator) (Nat.succ_le_of_lt more)
      rw [Nat.succ_mul] at bound
      omega
    subst exact
    rw [if_pos rfl] at low
    have halved : 2 ^ (shift + 1) * denominator = 2 * (2 ^ shift * denominator) := by
      rw [Nat.pow_succ, Nat.mul_comm (2 ^ shift), Nat.mul_assoc]
    rw [halved] at low below
    have excess : (scaled / denominator).log2 - 23 = shift := by
      refine Nat.le_antisymm (Nat.le_of_lt_succ finer) (le_excess positive ?_)
      rw [Nat.pow_add, Nat.mul_assoc]
      omega
    have finerUnit : 0 < 2 ^ shift * denominator := Nat.mul_pos (Nat.two_pow_pos shift) positive
    have rounded : roundHalfEven scaled (2 ^ shift * denominator) = 2 ^ 24 :=
      roundHalfEven_eq finerUnit (by omega) (by omega) (fun _ => by decide)
    rw [excess, Nat.mul_comm denominator, rounded]
    omega
  · have excess : (scaled / denominator).log2 - 23 = shift := Nat.le_antisymm fewest coarse
    rw [excess, Nat.mul_comm denominator, roundHalfEven_eq unit ?_ high tie]
    split at low <;> omega

/-! ## The reach of a number -/

/-- Whether a value lies in a reach, given in quarters of the smallest unit. -/
def Reach.Contains (reach : Reach) (value : ℚ) : Prop :=
  if reach.closed then
    reach.lower ≤ 4 * (2 ^ 149 * value) ∧ 4 * (2 ^ 149 * value) ≤ reach.upper
  else
    reach.lower < 4 * (2 ^ 149 * value) ∧ 4 * (2 ^ 149 * value) < reach.upper

/-- A quotient of whole numbers in a reach, in whole numbers. -/
theorem Reach.contains_div {reach : Reach} {numerator denominator : Nat}
    (positive : 0 < denominator) : reach.Contains (numerator / denominator) ↔
      if reach.closed then
        reach.lower * denominator ≤ 4 * (numerator * 2 ^ 149) ∧
          4 * (numerator * 2 ^ 149) ≤ reach.upper * denominator
      else
        reach.lower * denominator < 4 * (numerator * 2 ^ 149) ∧
          4 * (numerator * 2 ^ 149) < reach.upper * denominator := by
  have scale : (0 : ℚ) < denominator := Nat.cast_pos.mpr positive
  have quarters : 4 * (2 ^ 149 * ((numerator : ℚ) / denominator)) =
      ((4 * (numerator * 2 ^ 149) : ℕ) : ℚ) / denominator := by
    push_cast
    ring
  unfold Contains
  rw [quarters, le_div_iff₀ scale, div_le_iff₀ scale, lt_div_iff₀ scale, div_lt_iff₀ scale]
  simp only [← Nat.cast_mul, Nat.cast_le, Nat.cast_lt]

/-- The bounds of a reach, without regard to whether they belong to it. -/
theorem Reach.Contains.bounds {reach : Reach} {value : ℚ} (inside : reach.Contains value) :
    reach.lower ≤ 4 * (2 ^ 149 * value) ∧ 4 * (2 ^ 149 * value) ≤ reach.upper := by
  unfold Contains at inside
  split at inside
  · exact inside
  · exact ⟨inside.1.le, inside.2.le⟩

/-- The value of a decimal as the quotient that is rounded. -/
theorem ratio_eq (digits : Nat) (exponent : Int) :
    ((digits * 10 ^ exponent.toNat : ℕ) : ℚ) / (10 ^ (-exponent).toNat : ℕ) =
      digits * 10 ^ exponent := by
  rcases Int.le_total 0 exponent with whole | fractional
  · obtain ⟨power, rfl⟩ := Int.eq_ofNat_of_zero_le whole
    simp
  · obtain ⟨power, rfl⟩ := Int.exists_eq_neg_ofNat fractional
    simp [div_eq_mul_inv]

/-- A decimal is admitted if its value lies in the reach. -/
theorem admits_iff_contains (x : Binary32) (digits : Nat) (exponent : Int) :
    x.admits digits exponent = true ↔ x.reach.Contains (digits * 10 ^ exponent) := by
  rw [← ratio_eq, Reach.contains_div (Nat.pow_pos (by decide))]
  have point : 4 * digits * (2 ^ 149 * 10 ^ exponent.toNat) =
      4 * (digits * 10 ^ exponent.toNat * 2 ^ 149) := by ring
  simp only [admits, Nat.pow_eq, point]
  split <;> simp only [Bool.and_eq_true, decide_eq_true_eq]

/-! ## Patterns -/

/-- A magnitude is put together from its shift and its significand. -/
theorem magnitude_eq (x : Binary32) : x.magnitude = x.shift * 0x800000 + x.significand := by
  unfold significand shift
  omega

/-- A significand has 24 bits. -/
theorem significand_lt (x : Binary32) : x.significand < 2 ^ 24 := by
  unfold significand shift
  omega

private theorem le_significand {x : Binary32} (normal : 0 < x.shift) :
    0x800000 ≤ x.significand := by
  unfold significand
  unfold shift at normal ⊢
  omega

/-- Only zero has no significand. -/
theorem significand_pos {x : Binary32} (nonzero : x.magnitude ≠ 0) : 0 < x.significand := by
  rcases Nat.eq_zero_or_pos x.shift with subnormal | normal
  · have parts := x.magnitude_eq
    rw [subnormal] at parts
    omega
  · exact Nat.lt_of_lt_of_le (by decide) (le_significand normal)

/-- The lower limit of the reach of a nonzero number is half a unit away, or a quarter of one below
the least significand. -/
theorem lower_mul {x : Binary32} (nonzero : x.magnitude ≠ 0) (factor : Nat) :
    x.reach.lower * factor + (if x.significand = 0x800000 then 1 else 2) * (2 ^ x.shift * factor) =
      4 * (x.significand * (2 ^ x.shift * factor)) := by
  have lowered : x.reach.lower + (if x.significand = 0x800000 then 1 else 2) * 2 ^ x.shift =
      4 * (x.significand * 2 ^ x.shift) := by
    have unit := Nat.mul_le_mul_right (2 ^ x.shift) (significand_pos nonzero)
    simp only [reach, units, Nat.pow_eq]
    split <;> omega
  calc
    x.reach.lower * factor + (if x.significand = 0x800000 then 1 else 2) * (2 ^ x.shift * factor) =
        (x.reach.lower + (if x.significand = 0x800000 then 1 else 2) * 2 ^ x.shift) * factor := by
      ring
    _ = 4 * (x.significand * (2 ^ x.shift * factor)) := by rw [lowered]; ring

/-- The upper limit of the reach is half a unit away. -/
theorem upper_mul (x : Binary32) (factor : Nat) :
    x.reach.upper * factor =
      4 * (x.significand * (2 ^ x.shift * factor)) + 2 * (2 ^ x.shift * factor) := by
  simp only [reach, units, Nat.pow_eq]
  ring

/-- **The reach rounds to the number.** Every quotient in the reach of a nonzero finite number has
the number's magnitude as its nearest. -/
theorem nearestMagnitude_of_contains {x : Binary32} {numerator denominator : Nat}
    (positive : 0 < denominator) (nonzero : x.magnitude ≠ 0)
    (finite : x.magnitude ≤ infinityPattern)
    (inside : x.reach.Contains (numerator / denominator)) :
    nearestMagnitude numerator denominator = x.magnitude := by
  have lower := lower_mul nonzero denominator
  have upper := x.upper_mul denominator
  have unit : 0 < 2 ^ x.shift * denominator := Nat.mul_pos (Nat.two_pow_pos _) positive
  rw [Reach.contains_div positive] at inside
  have within : x.reach.lower * denominator ≤ 4 * (numerator * 2 ^ 149) ∧
      4 * (numerator * 2 ^ 149) ≤ x.reach.upper * denominator := by
    split at inside
    · exact inside
    · exact ⟨inside.1.le, inside.2.le⟩
  -- A quotient on a limit is admitted only if the significand is even.
  have tie : x.reach.lower * denominator = 4 * (numerator * 2 ^ 149) ∨
      4 * (numerator * 2 ^ 149) = x.reach.upper * denominator → x.significand % 2 = 0 := by
    intro onLimit
    split at inside
    · rename_i closed
      exact of_decide_eq_true closed
    · omega
  have even : 2 * (x.significand * (2 ^ x.shift * denominator)) =
        2 * (numerator * 2 ^ 149) + 2 ^ x.shift * denominator ∨
      2 * (numerator * 2 ^ 149) =
        2 * (x.significand * (2 ^ x.shift * denominator)) + 2 ^ x.shift * denominator →
      x.significand % 2 = 0 := by
    intro half
    by_cases least : x.significand = 0x800000
    · rw [least]
    · rw [if_neg least] at lower
      exact tie (by omega)
  simp only [nearestMagnitude, Nat.pow_eq]
  rw [rounded_eq positive x.significand_lt le_significand (by omega) (by omega) even,
    ← x.magnitude_eq, Nat.min_eq_left finite]

end RowQuery.Binary32
