import Mathlib.Algebra.Order.Ring.Abs
import Mathlib.Data.Nat.Digits.Lemmas
import RowQuery.Proofs.FloatFields

/-! # Decimals with the fewest digits

A decimal rounds to a number if no other number is nearer to it (`Binary32.RoundsTo`). Of the
decimals that do, a number is written as one with the fewest digits, of these as one that is nearest
to the number, and of two equally near ones as the larger (`Binary32.IsShortest`). The search for it
tries one power of ten after the other as the unit of the last digit and looks only at the two
multiples next to the number. This is enough, since what lies between the number and a decimal that
rounds to it also rounds to it (`RoundsTo.between`), and so finds the decimal just described
(`Binary32.isShortest_shortest`).
-/

namespace RowQuery

namespace Binary32

/-! ## Rounding -/

/-- Whether no number is nearer to a nonnegative decimal than a given one, sizes being compared; if
another is as near, the last bit of the given one is zero. The infinities take part with the size
that their fields encode. -/
def RoundsTo (decimal : ℚ) (x : Binary32) : Prop :=
  ∀ y : Binary32, y.decoded ≠ ⊥ →
    |decimal - x.encodedSize| < |decimal - y.encodedSize| ∨
      |decimal - x.encodedSize| = |decimal - y.encodedSize| ∧
        (y.encodedSize = x.encodedSize ∨ x.fractionField % 2 = 0)

/-- Whether the first of two decimals is nearer to a size, or as near and not smaller. -/
def Preferred (size first second : ℚ) : Prop :=
  |first - size| < |second - size| ∨ |first - size| = |second - size| ∧ second ≤ first

/-- Whether a decimal is the one that a number is written with: it rounds to the number with as few
digits as any, and is preferred to all others with as few. -/
structure IsShortest (x : Binary32) (decimal : Decimal) : Prop where
  /-- The decimal rounds to the number. -/
  rounds : RoundsTo decimal.value x
  /-- No decimal with fewer digits does. -/
  fewest : ∀ other : Decimal, RoundsTo other.value x →
    (Nat.digits 10 decimal.digits).length ≤ (Nat.digits 10 other.digits).length
  /-- The decimal is the nearest of those with as few digits, and the larger of two. -/
  nearest : ∀ other : Decimal, RoundsTo other.value x →
    (Nat.digits 10 other.digits).length = (Nat.digits 10 decimal.digits).length →
      Preferred x.encodedSize decimal.value other.value

/-- The size that a magnitude pattern stands for. -/
def sizeAt (pattern : Nat) : ℚ := unitsAt pattern / 2 ^ 149

private theorem encodedSize_eq_sizeAt (x : Binary32) : x.encodedSize = sizeAt x.magnitude :=
  x.size_eq_encodedSize.symm

private theorem sizeAt_lt_sizeAt {left right : Nat} (less : left < right) :
    sizeAt left < sizeAt right :=
  div_lt_div_of_pos_right (Nat.cast_lt.mpr (unitsAt_strictMono less)) (by norm_num)

private theorem decoded_ne_bot_iff (x : Binary32) :
    x.decoded ≠ ⊥ ↔ x.magnitude ≤ infinityPattern := by
  rw [← Nat.not_lt, ← decide_eq_true_eq (p := infinityPattern < x.magnitude)]
  change _ ↔ ¬x.isNaN = true
  cases undefined : x.isNaN with
  | true => simp [decoded_of_isNaN undefined]
  | false => simp [decoded_of_number undefined]

/-- Of two sizes the greater is nearer to what lies above their middle. -/
theorem abs_sub_greater {low high : ℚ} (less : low < high) (decimal : ℚ) :
    (|decimal - high| < |decimal - low| ↔ low + high < 2 * decimal) ∧
      (|decimal - high| = |decimal - low| ↔ low + high = 2 * decimal) := by
  have parts : (decimal - low) ^ 2 - (decimal - high) ^ 2 =
      (high - low) * (2 * decimal - (low + high)) := by ring
  have gap := sub_pos.mpr less
  rw [← sq_lt_sq, ← sq_eq_sq_iff_abs_eq_abs, ← sub_pos, parts, mul_pos_iff_of_pos_left gap, sub_pos]
  refine ⟨Iff.rfl, ?_⟩
  rw [eq_comm, ← sub_eq_zero, parts, mul_eq_zero_iff_left gap.ne', sub_eq_zero, eq_comm]

/-- The smaller is nearer to what lies below their middle. -/
theorem abs_sub_smaller {low high : ℚ} (less : low < high) (decimal : ℚ) :
    (|decimal - low| < |decimal - high| ↔ 2 * decimal < low + high) ∧
      (|decimal - low| = |decimal - high| ↔ 2 * decimal = low + high) := by
  obtain ⟨nearer, same⟩ := abs_sub_greater (neg_lt_neg less) (-decimal)
  rw [abs_sub_comm decimal low, abs_sub_comm decimal high]
  simp only [neg_sub_neg] at nearer same
  rw [nearer, same]
  constructor
  · constructor <;> intro _ <;> linarith
  · constructor <;> intro _ <;> linarith

/-- **The decimals that round to a number** are those between the middles to the next numbers below
and above, with the middles themselves if the last bit is zero. -/
theorem roundsTo_iff {x : Binary32} (nonzero : x.magnitude ≠ 0)
    (finite : x.magnitude < infinityPattern) (decimal : ℚ) :
    RoundsTo decimal x ↔
      (sizeAt (x.magnitude - 1) + sizeAt x.magnitude < 2 * decimal ∨
        sizeAt (x.magnitude - 1) + sizeAt x.magnitude = 2 * decimal ∧ x.magnitude % 2 = 0) ∧
      (2 * decimal < sizeAt x.magnitude + sizeAt (x.magnitude + 1) ∨
        2 * decimal = sizeAt x.magnitude + sizeAt (x.magnitude + 1) ∧ x.magnitude % 2 = 0) := by
  have even : x.fractionField % 2 = 0 ↔ x.magnitude % 2 = 0 := by
    rw [magnitude_eq_fields]
    omega
  have below : sizeAt (x.magnitude - 1) < sizeAt x.magnitude := sizeAt_lt_sizeAt (by omega)
  have above : sizeAt x.magnitude < sizeAt (x.magnitude + 1) := sizeAt_lt_sizeAt (by omega)
  simp only [RoundsTo, decoded_ne_bot_iff, encodedSize_eq_sizeAt, even]
  constructor
  · intro nearest
    have neighbour (pattern : Nat) (bounded : pattern ≤ infinityPattern) :=
      nearest (ofMagnitude false pattern)
    have kept (pattern : Nat) (bounded : pattern ≤ infinityPattern) :
        (ofMagnitude false pattern).magnitude = pattern :=
      magnitude_ofMagnitude (Nat.lt_of_le_of_lt bounded (by decide))
    constructor
    · have lower := neighbour (x.magnitude - 1) (by omega)
      rw [kept _ (by omega), (abs_sub_greater below decimal).1, (abs_sub_greater below decimal).2]
        at lower
      exact (lower (by omega)).imp_right (And.imp_right (Or.resolve_left · below.ne))
    · have upper := neighbour (x.magnitude + 1) (by omega)
      rw [kept _ (by omega), (abs_sub_smaller above decimal).1, (abs_sub_smaller above decimal).2]
        at upper
      exact (upper (by omega)).imp_right (And.imp_right (Or.resolve_left · above.ne'))
  · rintro ⟨lower, upper⟩ y -
    rcases Nat.lt_trichotomy y.magnitude x.magnitude with less | same | greater
    · have least : sizeAt y.magnitude ≤ sizeAt (x.magnitude - 1) := by
        rcases Nat.lt_or_eq_of_le (Nat.le_sub_one_of_lt less) with further | next
        · exact (sizeAt_lt_sizeAt further).le
        · rw [next]
      rw [(abs_sub_greater (sizeAt_lt_sizeAt less) decimal).1,
        (abs_sub_greater (sizeAt_lt_sizeAt less) decimal).2]
      rcases lower with nearer | ⟨middle, last⟩
      · exact .inl (by linarith)
      · rcases lt_or_eq_of_le least with further | next
        · exact .inl (by linarith)
        · exact .inr ⟨by rw [next, middle], .inr last⟩
    · exact .inr ⟨by rw [same], .inl (by rw [same])⟩
    · have greatest : sizeAt (x.magnitude + 1) ≤ sizeAt y.magnitude := by
        rcases Nat.lt_or_eq_of_le (Nat.succ_le_of_lt greater) with further | next
        · exact (sizeAt_lt_sizeAt further).le
        · exact le_of_eq (congrArg sizeAt next)
      rw [(abs_sub_smaller (sizeAt_lt_sizeAt greater) decimal).1,
        (abs_sub_smaller (sizeAt_lt_sizeAt greater) decimal).2]
      rcases upper with nearer | ⟨middle, last⟩
      · exact .inl (by linarith)
      · rcases lt_or_eq_of_le greatest with further | next
        · exact .inl (by linarith)
        · exact .inr ⟨by rw [← next, middle], .inr last⟩

/-- **What lies between a number and a decimal that rounds to it rounds to it as well.** -/
theorem RoundsTo.between {x : Binary32} (nonzero : x.magnitude ≠ 0)
    (finite : x.magnitude < infinityPattern) {far near : ℚ} (rounds : RoundsTo far x)
    (inside : far ≤ near ∧ near ≤ x.encodedSize ∨ x.encodedSize ≤ near ∧ near ≤ far) :
    RoundsTo near x := by
  rw [roundsTo_iff nonzero finite] at rounds ⊢
  rw [encodedSize_eq_sizeAt] at inside
  have below : sizeAt (x.magnitude - 1) < sizeAt x.magnitude := sizeAt_lt_sizeAt (by omega)
  have above : sizeAt x.magnitude < sizeAt (x.magnitude + 1) := sizeAt_lt_sizeAt (by omega)
  obtain ⟨lower, upper⟩ := rounds
  rcases inside with ⟨reached, under⟩ | ⟨beyond, reached⟩
  · refine ⟨?_, .inl (by linarith)⟩
    rcases lower with past | ⟨middle, even⟩
    · exact .inl (by linarith)
    · rcases lt_or_eq_of_le reached with nearer | rfl
      · exact .inl (by linarith)
      · exact .inr ⟨middle, even⟩
  · refine ⟨.inl (by linarith), ?_⟩
    rcases upper with past | ⟨middle, even⟩
    · exact .inl (by linarith)
    · rcases lt_or_eq_of_le reached with nearer | rfl
      · exact .inl (by linarith)
      · exact .inr ⟨middle, even⟩

/-- Zero rounds to no number but zero. -/
theorem not_roundsTo_zero {x : Binary32} (nonzero : x.magnitude ≠ 0) : ¬RoundsTo 0 x := by
  intro rounds
  have zero : (ofMagnitude false 0).encodedSize = 0 := by
    rw [encodedSize_eq_sizeAt]
    norm_num [sizeAt, unitsAt, ofMagnitude, magnitude]
  have positive : 0 < x.encodedSize := by
    rw [← zero, encodedSize_eq_sizeAt, encodedSize_eq_sizeAt]
    exact sizeAt_lt_sizeAt (Nat.pos_of_ne_zero nonzero)
  have farther : |0 - x.encodedSize| ≤ |0 - (ofMagnitude false 0).encodedSize| :=
    (rounds _ ((decoded_ne_bot_iff _).mpr (by decide))).elim le_of_lt fun same => same.1.le
  rw [zero, sub_zero, abs_zero, zero_sub, abs_neg, abs_of_pos positive] at farther
  exact absurd farther (not_le.mpr positive)

/-! ## Grids -/

/-- Whether a decimal is a whole multiple of a power of ten. -/
def OnGrid (exponent : Int) (decimal : ℚ) : Prop := ∃ digits : ℕ, decimal = digits * 10 ^ exponent

/-- Multiples of a power of ten are multiples of every smaller one. -/
theorem OnGrid.finer {fine coarse : Int} (le : fine ≤ coarse) {decimal : ℚ}
    (multiple : OnGrid coarse decimal) : OnGrid fine decimal := by
  obtain ⟨digits, rfl⟩ := multiple
  obtain ⟨count, apart⟩ := Int.le.dest le
  refine ⟨digits * 10 ^ count, ?_⟩
  rw [← apart, zpow_add₀ (by norm_num), zpow_natCast]
  push_cast
  ring

private theorem onGrid_pow {fine power : Int} (le : fine ≤ power) : OnGrid fine (10 ^ power) :=
  OnGrid.finer le ⟨1, by rw [Nat.cast_one, one_mul]⟩

/-- A decimal of few digits that rounds to a number is on a coarse grid, or else a power of ten next
to the number also rounds to the number and is nearer. -/
theorem exists_onGrid_of_roundsTo {x : Binary32} (nonzero : x.magnitude ≠ 0)
    (finite : x.magnitude < infinityPattern) {leading : Int}
    (low : (10 : ℚ) ^ leading ≤ x.encodedSize) (high : x.encodedSize < 10 ^ (leading + 1))
    {decimal : Decimal} {count : Nat} (positive : 0 < count) (few : decimal.digits < 10 ^ count)
    (rounds : RoundsTo decimal.value x) :
    ∃ point, OnGrid (leading + 1 - count) point ∧ RoundsTo point x ∧
      (point = decimal.value ∨ |point - x.encodedSize| < |decimal.value - x.encodedSize|) := by
  rcases lt_or_ge decimal.value (10 ^ leading) with small | reached
  · refine ⟨10 ^ leading, onGrid_pow (by omega),
      rounds.between nonzero finite (.inl ⟨small.le, low⟩), .inr ?_⟩
    rw [abs_of_nonpos (by linarith), abs_of_nonpos (by linarith)]
    linarith
  rcases lt_or_ge (10 ^ (leading + 1)) decimal.value with large | within
  · refine ⟨10 ^ (leading + 1), onGrid_pow (by omega),
      rounds.between nonzero finite (.inr ⟨high.le, large.le⟩), .inr ?_⟩
    rw [abs_of_nonneg (by linarith), abs_of_nonneg (by linarith)]
    linarith
  · refine ⟨decimal.value, ?_, rounds, .inl rfl⟩
    have power : (10 : ℚ) ^ leading < 10 ^ (decimal.exponent + count) := by
      have unit : (0 : ℚ) < 10 ^ decimal.exponent := zpow_pos (by norm_num) _
      calc (10 : ℚ) ^ leading ≤ decimal.digits * 10 ^ decimal.exponent := reached
        _ < 10 ^ count * 10 ^ decimal.exponent :=
          mul_lt_mul_of_pos_right (by exact_mod_cast few) unit
        _ = 10 ^ (decimal.exponent + count) := by
          rw [zpow_add₀ (by norm_num), zpow_natCast, mul_comm]
    have exponents := (zpow_lt_zpow_iff_right₀ (by norm_num)).mp power
    exact OnGrid.finer (by omega) ⟨decimal.digits, rfl⟩

section Sides

variable {size first second : ℚ}

/-- Below a size the larger of two decimals is preferred. -/
theorem preferred_of_le_size (smaller : second ≤ first) (below : first ≤ size) :
    Preferred size first second := by
  rw [Preferred, abs_of_nonpos (by linarith), abs_of_nonpos (by linarith)]
  rcases lt_or_eq_of_le smaller with further | same
  · exact .inl (by linarith)
  · exact .inr ⟨by rw [same], smaller⟩

/-- Above a size the smaller of two decimals is preferred. -/
theorem preferred_of_size_le (above : size ≤ first) (larger : first ≤ second) :
    Preferred size first second := by
  rw [Preferred, abs_of_nonneg (by linarith), abs_of_nonneg (by linarith)]
  rcases lt_or_eq_of_le larger with further | same
  · exact .inl (by linarith)
  · exact .inr ⟨by rw [same], same.ge⟩

/-- A decimal below a size is preferred to another one if their middle is above the size. -/
theorem preferred_of_lt_middle (below : first ≤ size) (nearer : 2 * size < first + second) :
    Preferred size first second := by
  rw [Preferred, abs_of_nonpos (by linarith), abs_of_nonneg (by linarith)]
  exact .inl (by linarith)

/-- A decimal above a size is preferred to one below it unless their middle is above the size. -/
theorem preferred_of_middle_le (above : size ≤ first) (below : second ≤ size)
    (nearer : first + second ≤ 2 * size) : Preferred size first second := by
  rw [Preferred, abs_of_nonneg (by linarith), abs_of_nonpos (by linarith)]
  rcases lt_or_eq_of_le nearer with further | same
  · exact .inl (by linarith)
  · exact .inr ⟨by linarith, below.trans above⟩

end Sides

/-- What is preferred to a point is preferred to what the point is nearer than. -/
theorem Preferred.trans_nearer {size first point second : ℚ}
    (preferred : Preferred size first point)
    (nearer : point = second ∨ |point - size| < |second - size|) : Preferred size first second := by
  rcases nearer with rfl | nearer
  · exact preferred
  · exact .inl (preferred.elim (fun less => less.trans nearer) fun same => same.1.trans_lt nearer)

/-- **The first grid is enough.** If no multiple of the next greater power of ten rounds to a
number, the multiple that is preferred to all others has the fewest digits and is preferred to all
decimals with as few. -/
theorem isShortest_of_grid {x : Binary32} (nonzero : x.magnitude ≠ 0)
    (finite : x.magnitude < infinityPattern) {leading : Int}
    (low : (10 : ℚ) ^ leading ≤ x.encodedSize) (high : x.encodedSize < 10 ^ (leading + 1))
    {decimal : Decimal} {steps : Nat}
    (rounds : RoundsTo decimal.value x) (short : decimal.digits < 10 ^ (steps + 1))
    (coarser : 0 < steps → ∀ point, OnGrid (leading - steps + 1) point → ¬RoundsTo point x)
    (best : ∀ point, OnGrid (leading - steps) point → RoundsTo point x →
      Preferred x.encodedSize decimal.value point) : x.IsShortest decimal := by
  have digits (other : Decimal) (roundsToo : RoundsTo other.value x) :
      0 < (Nat.digits 10 other.digits).length := by
    refine List.length_pos_of_ne_nil (Nat.digits_ne_nil_iff_ne_zero.mpr fun zero => ?_)
    rw [Decimal.value, zero, Nat.cast_zero, zero_mul] at roundsToo
    exact not_roundsTo_zero nonzero roundsToo
  have fewest (other : Decimal) (roundsToo : RoundsTo other.value x) :
      steps + 1 ≤ (Nat.digits 10 other.digits).length := by
    by_contra fewer
    have positive := digits other roundsToo
    obtain ⟨point, multiple, roundsPoint, -⟩ := exists_onGrid_of_roundsTo nonzero finite low high
      positive (Nat.lt_base_pow_length_digits (by decide)) roundsToo
    exact coarser (by omega) point (multiple.finer (by omega)) roundsPoint
  have shortest : (Nat.digits 10 decimal.digits).length ≤ steps + 1 :=
    (Nat.digits_length_le_iff (by decide) _).mpr short
  refine ⟨rounds, fun other roundsToo => shortest.trans (fewest other roundsToo), ?_⟩
  intro other roundsToo same
  obtain ⟨point, multiple, roundsPoint, nearer⟩ := exists_onGrid_of_roundsTo nonzero finite low high
    (digits other roundsToo) (Nat.lt_base_pow_length_digits (by decide)) roundsToo
  exact (best point (multiple.finer (by omega)) roundsPoint).trans_nearer nearer

/-! ## The reach of a number -/

/-- The upper limit of the reach is the middle to the next number above. -/
theorem reach_upper_eq (x : Binary32) :
    (x.reach.upper : ℚ) = 2 * (2 ^ 149 * (sizeAt x.magnitude + sizeAt (x.magnitude + 1))) := by
  have next : x.reach.upper = 2 * (unitsAt x.magnitude + unitsAt (x.magnitude + 1)) := by
    rw [unitsAt_succ, ← units_eq_unitsAt]
    change 4 * x.units + 2 * 2 ^ x.shift = 2 * (x.units + (x.units + 2 ^ x.shift))
    omega
  rw [next, sizeAt, sizeAt]
  push_cast
  field_simp

/-- The lower limit is the middle to the next number below, except at the least normal number, where
it is nearer than that. -/
theorem reach_lower_eq {x : Binary32} (nonzero : x.magnitude ≠ 0)
    (ordinary : x.magnitude ≠ 0x800000) :
    (x.reach.lower : ℚ) = 2 * (2 ^ 149 * (sizeAt (x.magnitude - 1) + sizeAt x.magnitude)) := by
  have previous : x.reach.lower = 2 * (unitsAt (x.magnitude - 1) + unitsAt x.magnitude) := by
    have lower := lower_mul nonzero 1
    have grown := unitsAt_succ (x.magnitude - 1)
    have parts := x.magnitude_eq
    rw [Nat.sub_add_cancel (Nat.pos_of_ne_zero nonzero)] at grown
    rw [Nat.mul_one, Nat.mul_one] at lower
    change _ = 4 * x.units at lower
    rw [units_eq_unitsAt] at lower
    by_cases least : x.significand = 0x800000
    · have binade : (x.magnitude - 1) / 0x800000 - 1 + 1 = x.shift := by omega
      rw [if_pos least, ← binade, Nat.pow_succ] at lower
      omega
    · have binade : (x.magnitude - 1) / 0x800000 - 1 = x.shift := by
        unfold shift
        unfold significand shift at least
        omega
      rw [if_neg least] at lower
      rw [binade] at grown
      omega
  rw [previous, sizeAt, sizeAt]
  push_cast
  field_simp

/-- The reach of a number is closed if the last bit is zero. -/
theorem closed_iff (x : Binary32) : x.reach.closed = true ↔ x.magnitude % 2 = 0 := by
  have parts := x.magnitude_eq
  rw [reach, decide_eq_true_eq]
  omega

/-- **The reach of a number** holds the decimals that round to it, except at the least normal
number. -/
theorem contains_iff_roundsTo {x : Binary32} (nonzero : x.magnitude ≠ 0)
    (finite : x.magnitude < infinityPattern) (ordinary : x.magnitude ≠ 0x800000) (decimal : ℚ) :
    x.reach.Contains decimal ↔ RoundsTo decimal x := by
  rw [roundsTo_iff nonzero finite, Reach.Contains, reach_upper_eq,
    reach_lower_eq nonzero ordinary]
  by_cases even : x.magnitude % 2 = 0
  · rw [if_pos (x.closed_iff.mpr even)]
    simp only [even, and_true, ← le_iff_lt_or_eq]
    constructor <;> rintro ⟨lower, upper⟩ <;> constructor <;> linarith
  · rw [if_neg (mt x.closed_iff.mp even)]
    simp only [even, and_false, or_false]
    constructor <;> rintro ⟨lower, upper⟩ <;> constructor <;> linarith

/-! ## The search -/

private theorem size_lt_pow_leadingFrom (x : Binary32) : ∀ (fuel : Nat) (bound : Int),
    x.size < (10 : ℚ) ^ (bound + 1) → x.size < (10 : ℚ) ^ (x.leadingFrom fuel bound + 1)
  | 0, _, under => under
  | fuel + 1, bound, under => by
      simp only [leadingFrom]
      split
      · exact under
      · rename_i missed
        refine x.size_lt_pow_leadingFrom fuel (bound - 1) ?_
        rw [sub_add_cancel]
        exact not_le.mp (mt (x.pow_le_size_iff bound).mp missed)

/-- A finite magnitude is below the power of ten after that of its leading digit. -/
theorem size_lt_pow_leadingExponent {x : Binary32} (finite : x.magnitude < infinityPattern) :
    x.size < (10 : ℚ) ^ (x.leadingExponent + 1) := by
  refine x.size_lt_pow_leadingFrom 83 38 ?_
  have under := sizeAt_lt_sizeAt finite
  have infinite : unitsAt infinityPattern = 2 ^ 128 * 2 ^ 149 := by decide +kernel
  rw [← encodedSize_eq_sizeAt, ← size_eq_encodedSize, sizeAt, infinite, Nat.cast_mul, Nat.cast_pow,
    Nat.cast_pow, Nat.cast_ofNat, mul_div_cancel_right₀ _ (by norm_num)] at under
  exact under.trans (by norm_num)

/-- Of the two whole numbers next to a quotient the larger is taken if it is as near as the other.
-/
theorem upward_up_iff (numerator denominator : Nat) :
    Tie.up.upward numerator denominator = true ↔
      (2 * (numerator / denominator) + 1) * denominator ≤ 2 * numerator := by
  have parts := Nat.div_add_mod numerator denominator
  rw [Nat.add_mul, Nat.one_mul, Nat.mul_assoc, Nat.mul_comm _ denominator]
  unfold Tie.upward
  cases order : compare (2 * (numerator % denominator)) denominator with
  | lt =>
      have under := compare_lt_iff_lt.mp order
      simp only [Bool.false_eq_true, false_iff]
      omega
  | eq =>
      have middle := compare_eq_iff_eq.mp order
      simp only [true_iff]
      omega
  | gt =>
      have above := compare_gt_iff_gt.mp order
      simp only [true_iff]
      omega

/-- The larger of the two multiples next to a magnitude is taken if it is as near as the other. -/
theorem upward_iff (x : Binary32) (exponent : Int) :
    Tie.up.upward (x.ratioTo exponent).1 (x.ratioTo exponent).2 = true ↔
      (2 * x.below exponent + 1 : ℚ) * 10 ^ exponent ≤ 2 * x.size := by
  have step : (0 : ℚ) < 10 ^ exponent := zpow_pos (by norm_num) exponent
  have scale : (0 : ℚ) < (x.ratioTo exponent).2 := Nat.cast_pos.mpr (x.ratioTo_pos exponent)
  have ratio := x.ratioTo_div exponent
  rw [upward_up_iff, ← le_div_iff₀ step, mul_div_assoc, ← ratio, ← mul_div_assoc, le_div_iff₀ scale,
    below]
  generalize (x.ratioTo exponent).1 = numerator
  generalize (x.ratioTo exponent).2 = denominator
  exact_mod_cast Iff.rfl

section Ordinary

variable {x : Binary32} (nonzero : x.magnitude ≠ 0) (finite : x.magnitude < infinityPattern)
  (ordinary : x.magnitude ≠ 0x800000)
include nonzero finite ordinary

/-- A decimal is admitted if it rounds to the number. -/
theorem admits_iff_roundsTo (digits : Nat) (exponent : Int) :
    x.admits digits exponent = true ↔ RoundsTo (digits * 10 ^ exponent) x := by
  rw [admits_iff_contains, contains_iff_roundsTo nonzero finite ordinary]

/-- If a multiple of a power of ten rounds to a number, so does the one of the two next to the
number that is on its side. -/
theorem roundsTo_neighbour {exponent : Int} {digits : Nat}
    (rounds : RoundsTo (digits * 10 ^ exponent) x) :
    (digits ≤ x.below exponent ∧ x.admits (x.below exponent) exponent = true) ∨
      (x.below exponent + 1 ≤ digits ∧ x.admits (x.below exponent + 1) exponent = true) := by
  have step : (0 : ℚ) < 10 ^ exponent := zpow_pos (by norm_num) exponent
  have under := x.below_le exponent
  have past := (x.lt_below_succ exponent).le
  rw [size_eq_encodedSize] at under past
  rcases Nat.lt_or_ge (x.below exponent) digits with above | within
  · refine .inr ⟨above, (admits_iff_roundsTo nonzero finite ordinary _ _).mpr ?_⟩
    refine rounds.between nonzero finite (.inr ⟨by exact_mod_cast past, ?_⟩)
    exact mul_le_mul_of_nonneg_right (Nat.cast_le.mpr above) step.le
  · refine .inl ⟨within, (admits_iff_roundsTo nonzero finite ordinary _ _).mpr ?_⟩
    refine rounds.between nonzero finite (.inl ⟨?_, under⟩)
    exact mul_le_mul_of_nonneg_right (Nat.cast_le.mpr within) step.le

/-- If nothing is found on a grid, none of its points rounds to the number. -/
theorem not_roundsTo_of_nearestOn? {exponent : Int} (missed : x.nearestOn? .up exponent = none)
    {point : ℚ} (multiple : OnGrid exponent point) : ¬RoundsTo point x := by
  obtain ⟨digits, rfl⟩ := multiple
  intro rounds
  rw [nearestOn?_eq] at missed
  obtain ⟨-, admitted⟩ | ⟨-, admitted⟩ := roundsTo_neighbour nonzero finite ordinary rounds
  · rw [admitted] at missed
    cases upper : x.admits (x.below exponent + 1) exponent <;> rw [upper] at missed <;> cases missed
  · rw [admitted] at missed
    cases lower : x.admits (x.below exponent) exponent <;> rw [lower] at missed <;> cases missed

/-- The point below a number is preferred to all points that round to it, if it is nearer than the
point above or that one is not admitted. -/
theorem preferred_below_point {exponent : Int}
    (nearer : x.admits (x.below exponent + 1) exponent = true →
      2 * x.encodedSize < (2 * x.below exponent + 1) * 10 ^ exponent)
    {point : ℚ} (multiple : OnGrid exponent point) (rounds : RoundsTo point x) :
    Preferred x.encodedSize (x.below exponent * 10 ^ exponent) point := by
  have step : (0 : ℚ) < 10 ^ exponent := zpow_pos (by norm_num) exponent
  have under := x.below_le exponent
  have past := x.lt_below_succ exponent
  rw [size_eq_encodedSize] at under past
  obtain ⟨digits, rfl⟩ := multiple
  obtain ⟨within, -⟩ | ⟨above, admitted⟩ := roundsTo_neighbour nonzero finite ordinary rounds
  · have less := mul_le_mul_of_nonneg_right (Nat.cast_le (α := ℚ).mpr within) step.le
    exact preferred_of_le_size less under
  · have more := mul_le_mul_of_nonneg_right (Nat.cast_le (α := ℚ).mpr above) step.le
    have near := nearer admitted
    push_cast at more
    exact preferred_of_lt_middle under (by linarith)

/-- The point above a number is preferred to all points that round to it, if it is as near as the
point below or that one is not admitted. -/
theorem preferred_above_point {exponent : Int}
    (nearer : x.admits (x.below exponent) exponent = true →
      (2 * x.below exponent + 1) * 10 ^ exponent ≤ 2 * x.encodedSize)
    {point : ℚ} (multiple : OnGrid exponent point) (rounds : RoundsTo point x) :
    Preferred x.encodedSize ((x.below exponent + 1 : ℕ) * 10 ^ exponent) point := by
  have step : (0 : ℚ) < 10 ^ exponent := zpow_pos (by norm_num) exponent
  have under := x.below_le exponent
  have past := x.lt_below_succ exponent
  rw [size_eq_encodedSize] at under past
  obtain ⟨digits, rfl⟩ := multiple
  obtain ⟨within, admitted⟩ | ⟨above, -⟩ := roundsTo_neighbour nonzero finite ordinary rounds
  · have less := mul_le_mul_of_nonneg_right (Nat.cast_le (α := ℚ).mpr within) step.le
    have near := nearer admitted
    push_cast
    exact preferred_of_middle_le past.le (by linarith) (by linarith)
  · have more := mul_le_mul_of_nonneg_right (Nat.cast_le (α := ℚ).mpr above) step.le
    refine preferred_of_size_le ?_ more
    push_cast
    exact past.le

/-- **What is found on a grid is preferred to all of its points that round to the number.** -/
theorem preferred_of_nearestOn? {exponent : Int} {decimal : Decimal}
    (found : x.nearestOn? .up exponent = some decimal) :
    decimal.exponent = exponent ∧ decimal.digits ≤ x.below exponent + 1 ∧
      ∀ point, OnGrid exponent point → RoundsTo point x →
        Preferred x.encodedSize decimal.value point := by
  have turning := x.upward_iff exponent
  rw [size_eq_encodedSize] at turning
  have takesLower (nearer) := fun point : ℚ =>
    @preferred_below_point x nonzero finite ordinary exponent nearer point
  have takesUpper (nearer) := fun point : ℚ =>
    @preferred_above_point x nonzero finite ordinary exponent nearer point
  rw [nearestOn?_eq] at found
  cases lower : x.admits (x.below exponent) exponent <;>
    cases upper : x.admits (x.below exponent + 1) exponent <;>
    rw [lower, upper] at found
  · cases found
  · cases found
    exact ⟨rfl, le_rfl, takesUpper fun admitted => by rw [lower] at admitted; cases admitted⟩
  · cases found
    exact ⟨rfl, Nat.le_succ _, takesLower fun admitted => by rw [upper] at admitted; cases admitted⟩
  · cases up : Tie.up.upward (x.ratioTo exponent).1 (x.ratioTo exponent).2 <;>
      rw [gridPoint?, up] at found <;> cases found
    · refine ⟨rfl, Nat.le_succ _, takesLower fun _ => not_le.mp (mt turning.mpr ?_)⟩
      rw [up]
      exact Bool.false_ne_true
    · exact ⟨rfl, le_rfl, takesUpper fun _ => turning.mp up⟩

end Ordinary

/-! ## Final zeros -/

private theorem digits_dropZeros_le : ∀ (bound : Nat) (decimal : Decimal),
    (Decimal.dropZeros bound decimal).digits ≤ decimal.digits
  | 0, _ => le_rfl
  | bound + 1, decimal => by
      rw [Decimal.dropZeros]
      split
      · exact (digits_dropZeros_le bound _).trans (Nat.div_le_self _ _)
      · exact le_rfl

/-- Dropping as many zeros as there can be leaves none. -/
theorem dropZeros_mod : ∀ (bound : Nat) (decimal : Decimal), decimal.digits ≠ 0 →
    decimal.digits < 10 ^ (bound + 1) → (Decimal.dropZeros bound decimal).digits % 10 ≠ 0
  | 0, decimal, nonzero, short => by
      rw [Decimal.dropZeros]
      omega
  | bound + 1, decimal, nonzero, short => by
      rw [Decimal.dropZeros]
      split
      · refine dropZeros_mod bound _ (by dsimp only; omega) ?_
        rw [Nat.pow_succ] at short
        dsimp only
        omega
      · assumption

/-- A decimal without final zeros does not end in one. -/
theorem trim_mod {decimal : Decimal} (nonzero : decimal.digits ≠ 0) :
    decimal.trim.digits % 10 ≠ 0 := by
  have digit : 0 < (Text.digits decimal.digits).length := Nat.length_toDigits_pos
  refine dropZeros_mod _ decimal nonzero ?_
  rw [Nat.sub_add_cancel digit]
  exact (Nat.length_toDigits_le_iff (by decide) digit).mp le_rfl

/-! ## The shortest decimal -/

/-- The least normal number is written with eight digits. -/
theorem shortest_least_normal {x : Binary32} (least : x.magnitude = 0x800000) :
    x.shortest .up = ⟨11754944, -45⟩ := by
  rw [← x.ofMagnitude_magnitude, least]
  cases x.isNegative <;> decide +kernel

/-- These are the fewest, although the search looks at a part of what rounds to the number only. -/
theorem isShortest_least_normal {x : Binary32} (least : x.magnitude = 0x800000) :
    x.IsShortest ⟨11754944, -45⟩ := by
  have nonzero : x.magnitude ≠ 0 := by omega
  have finite : x.magnitude < infinityPattern := by rw [least]; decide
  have size : x.encodedSize = 2 ^ 23 / 2 ^ 149 := by
    rw [encodedSize_eq_sizeAt, least]
    norm_num [sizeAt, unitsAt]
  have rounds (decimal : ℚ) : RoundsTo decimal x ↔
      2 ^ 24 - 1 ≤ 2 ^ 150 * decimal ∧ 2 ^ 150 * decimal ≤ 2 ^ 24 + 1 := by
    rw [roundsTo_iff nonzero finite, least]
    norm_num [sizeAt, unitsAt, ← le_iff_lt_or_eq]
    constructor <;> rintro ⟨lower, upper⟩ <;> constructor <;> linarith
  refine @isShortest_of_grid x nonzero finite (-38) ?_ ?_ ⟨11754944, -45⟩ 7 ?_ (by decide) ?_ ?_
  · rw [size]
    norm_num
  · rw [size]
    norm_num
  · rw [rounds, Decimal.value]
    norm_num
  · rintro - _ ⟨digits, rfl⟩ roundsToo
    obtain ⟨lower, upper⟩ := (rounds _).mp roundsToo
    norm_num at lower upper
    rcases Nat.lt_or_ge digits 1175495 with under | above
    · have few : (digits : ℚ) ≤ 1175494 := by exact_mod_cast Nat.le_of_lt_succ under
      linarith
    · have many : (1175495 : ℚ) ≤ digits := by exact_mod_cast above
      linarith
  · rintro _ ⟨digits, rfl⟩ -
    rw [size, Decimal.value]
    rcases Nat.lt_or_ge digits 11754944 with under | above
    · have few : (digits : ℚ) ≤ 11754943 := by exact_mod_cast Nat.le_of_lt_succ under
      refine preferred_of_middle_le ?_ ?_ ?_ <;> norm_num <;> linarith
    · have many : (11754944 : ℚ) ≤ digits := by exact_mod_cast above
      refine preferred_of_size_le ?_ ?_ <;> norm_num
      linarith

/-- Zero is written with no digit that counts. -/
theorem isShortest_zero {x : Binary32} (zero : x.magnitude = 0) : x.IsShortest ⟨0, 0⟩ := by
  have size : x.encodedSize = 0 := by
    rw [encodedSize_eq_sizeAt, zero]
    norm_num [sizeAt, unitsAt]
  have value : (Decimal.mk 0 0).value = 0 := by rw [Decimal.value, Nat.cast_zero, zero_mul]
  refine ⟨fun y _ => ?_, fun other _ => Nat.zero_le _, fun other _ same => ?_⟩
  · rw [value, size, sub_zero, abs_zero, zero_sub, abs_neg]
    rcases eq_or_ne y.encodedSize 0 with same | positive
    · exact .inr ⟨by rw [same, abs_zero], .inl same⟩
    · exact .inl (abs_pos.mpr positive)
  · have digitless : other.digits = 0 :=
      Nat.digits_eq_nil_iff_eq_zero.mp (List.eq_nil_of_length_eq_zero same)
    have nothing : other.value = 0 := by rw [Decimal.value, digitless, Nat.cast_zero, zero_mul]
    rw [value, nothing]
    exact .inr ⟨rfl, le_rfl⟩

/-- The decimal that is found with some number of digits does not have more of them once its final
zeros are dropped: only a power of ten could. -/
theorem digits_trim_lt {decimal : Decimal} {count : Nat} (nonzero : decimal.digits ≠ 0)
    (few : decimal.digits ≤ 10 ^ (count + 1)) : decimal.trim.digits < 10 ^ (count + 1) := by
  refine Nat.lt_of_le_of_ne ((digits_dropZeros_le _ decimal).trans few) fun power => ?_
  have last := trim_mod nonzero
  rw [power, Nat.pow_succ, Nat.mul_mod_left] at last
  exact last rfl

/-- **The shortest decimal.** A finite number is written as the decimal with the fewest digits that
rounds to it, the nearest of them and the larger of two. -/
theorem isShortest_shortest {x : Binary32} (finite : x.magnitude < infinityPattern) :
    x.IsShortest (x.shortest .up) := by
  by_cases zero : x.magnitude = 0
  · rw [shortest, if_pos zero]
    exact isShortest_zero zero
  by_cases least : x.magnitude = 0x800000
  · rw [shortest_least_normal least]
    exact isShortest_least_normal least
  obtain ⟨first, found, passed⟩ := shortestFrom_leading .up zero
  obtain ⟨-, near, best⟩ := preferred_of_nearestOn? zero finite least found
  have rounds := (contains_iff_roundsTo zero finite least _).mp (shortest_contains .up zero)
  have low := pow_leadingExponent_le zero
  have high := size_lt_pow_leadingExponent finite
  have value : (x.shortest .up).value = (x.shortestFrom .up 9 x.leadingExponent).value := by
    rw [shortest, if_neg zero, Decimal.trim, value_dropZeros]
  have few : x.below (x.leadingExponent - first) < 10 ^ (first + 1) := by
    have under := (x.below_le (x.leadingExponent - first)).trans_lt high
    rw [show x.leadingExponent + 1 = x.leadingExponent - first + (first + 1 : ℕ) by omega,
      zpow_add₀ (by norm_num), mul_comm, mul_lt_mul_iff_right₀ (zpow_pos (by norm_num) _),
      zpow_natCast] at under
    exact_mod_cast under
  rw [size_eq_encodedSize] at low high
  refine @isShortest_of_grid x zero finite _ low high _ first rounds ?_ ?_ ?_
  · rw [shortest, if_neg zero]
    refine digits_trim_lt (fun digitless => ?_) (near.trans few)
    rw [value, Decimal.value, digitless, Nat.cast_zero, zero_mul] at rounds
    exact not_roundsTo_zero zero rounds
  · intro later point multiple
    have earlier := passed (first - 1) (by omega)
    have greater : x.leadingExponent - (first - 1 : ℕ) = x.leadingExponent - first + 1 := by omega
    rw [greater] at earlier
    exact not_roundsTo_of_nearestOn? zero finite least earlier multiple
  · rw [value]
    exact best

end Binary32

end RowQuery
