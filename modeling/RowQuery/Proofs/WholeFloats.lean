import Mathlib.Data.Nat.Log
import RowQuery.Proofs.FloatOrder
import RowQuery.Proofs.ShortestDecimal

/-! # Whole numbers as floats

A whole number becomes the nearest float. Rounding keeps the order (`nearestMagnitude_mono`): within
a binade because rounding to whole significands does, and from one binade to a later one because the
first pattern of the later binade lies between. The nearest float has the first 24 binary digits of
the whole number (`value_ofInt`), which are all of them up to `2 ^ 24`. Numbers are compared by the
values they stand for (`order_eq_compare_value`), so comparing a float with such a whole number is
comparing the exact values (`order_ofInt`).
-/

namespace RowQuery.Binary32

/-! ## Rounding keeps the order -/

/-- Rounding keeps the order. -/
theorem roundHalfEven_mono {left right : Nat} (denominator : Nat) (le : left ≤ right) :
    roundHalfEven left denominator ≤ roundHalfEven right denominator := by
  have floors := Nat.div_le_div_right (c := denominator) le
  simp only [roundHalfEven]
  rcases Nat.lt_or_ge (left / denominator) (right / denominator) with below | same
  · split_ifs <;> omega
  · have equal : left / denominator = right / denominator := Nat.le_antisymm floors same
    have rests : left % denominator ≤ right % denominator := by
      have leftParts := Nat.div_add_mod left denominator
      have rightParts := Nat.div_add_mod right denominator
      rw [equal] at leftParts
      omega
    rw [equal]
    split_ifs <;> omega

private theorem roundHalfEven_mul (whole : Nat) {denominator : Nat} (positive : 0 < denominator) :
    roundHalfEven (whole * denominator) denominator = whole :=
  roundHalfEven_eq positive (by omega) (by omega) (by omega)

private theorem excess_mono {left right : Nat} (denominator : Nat) (le : left ≤ right) :
    (left / denominator).log2 - 23 ≤ (right / denominator).log2 - 23 := by
  have quotients := Nat.div_le_div_right (c := denominator) le
  rw [Nat.log2_eq_log_two, Nat.log2_eq_log_two]
  exact Nat.sub_le_sub_right (Nat.log_mono_right quotients) 23

private theorem lt_two_pow_excess (scaled : Nat) {denominator : Nat} (positive : 0 < denominator) :
    scaled < 2 ^ 24 * (denominator * 2 ^ ((scaled / denominator).log2 - 23)) := by
  have quotient : scaled / denominator < 2 ^ (24 + ((scaled / denominator).log2 - 23)) :=
    Nat.lt_of_lt_of_le Nat.lt_log2_self (Nat.pow_le_pow_right (by decide) (by omega))
  have bound := (Nat.div_lt_iff_lt_mul positive).mp quotient
  rwa [Nat.pow_add, Nat.mul_assoc, Nat.mul_comm _ denominator] at bound

private theorem two_pow_excess_le {scaled denominator : Nat}
    (positive : 0 < denominator) (coarse : 0 < (scaled / denominator).log2 - 23) :
    2 ^ 23 * (denominator * 2 ^ ((scaled / denominator).log2 - 23)) ≤ scaled := by
  have nonzero : scaled / denominator ≠ 0 := by
    intro zero
    rw [zero] at coarse
    exact absurd coarse (by decide)
  have quotient : 2 ^ (23 + ((scaled / denominator).log2 - 23)) ≤ scaled / denominator :=
    (Nat.le_log2 nonzero).mp (by omega)
  have bound := (Nat.le_div_iff_mul_le positive).mp quotient
  rwa [Nat.pow_add, Nat.mul_assoc, Nat.mul_comm _ denominator] at bound

/-- Rounding to 24 bits keeps the order, also where the number of bits that are cut off differs. -/
theorem rounded_mono {low high denominator : Nat} (positive : 0 < denominator) (le : low ≤ high) :
    ((low / denominator).log2 - 23) * 0x800000 +
        roundHalfEven low (denominator * 2 ^ ((low / denominator).log2 - 23)) ≤
      ((high / denominator).log2 - 23) * 0x800000 +
        roundHalfEven high (denominator * 2 ^ ((high / denominator).log2 - 23)) := by
  have excess := excess_mono denominator le
  rcases Nat.lt_or_ge ((low / denominator).log2 - 23) ((high / denominator).log2 - 23) with
    finer | same
  · -- The lower pattern is at most the first one of the next binade, and that at most the upper.
    have below := roundHalfEven_mono (denominator * 2 ^ ((low / denominator).log2 - 23))
      (lt_two_pow_excess low positive).le
    have above := roundHalfEven_mono (denominator * 2 ^ ((high / denominator).log2 - 23))
      (two_pow_excess_le positive (Nat.zero_lt_of_lt finer))
    rw [roundHalfEven_mul _ (Nat.mul_pos positive (Nat.two_pow_pos _))] at below above
    omega
  · rw [Nat.le_antisymm excess same]
    exact Nat.add_le_add_left (roundHalfEven_mono _ le) _

/-- **Rounding keeps the order.** A greater quotient has no smaller pattern as its nearest. -/
theorem nearestMagnitude_mono {left right denominator : Nat} (positive : 0 < denominator)
    (le : left ≤ right) :
    nearestMagnitude left denominator ≤ nearestMagnitude right denominator := by
  simp only [nearestMagnitude, Nat.pow_eq]
  exact min_le_min_right _ (rounded_mono positive (Nat.mul_le_mul_right _ le))

/-! ## Whole numbers -/

private theorem isNegative_ofMagnitude {negative : Bool} {magnitude : Nat}
    (bounded : magnitude < 0x80000000) :
    (ofMagnitude negative magnitude).isNegative = negative := by
  unfold Binary32.isNegative ofMagnitude
  cases negative
  · rw [if_neg Bool.false_ne_true, UInt32.toNat_ofNat']
    exact decide_eq_false (by omega)
  · rw [if_pos rfl, UInt32.toNat_ofNat']
    exact decide_eq_true (by omega)

/-- The pattern of a whole number with its sign, by which it is ordered. -/
def keyOf (whole : Int) : Int :=
  if whole < 0 then -(nearestMagnitude whole.natAbs 1 : Int) else nearestMagnitude whole.natAbs 1

/-- A whole number is a number as a float. -/
theorem isNaN_ofInt (whole : Int) : (ofInt whole).isNaN = false := by
  have finite : nearestMagnitude whole.natAbs 1 ≤ infinityPattern := Nat.min_le_right _ _
  rw [ofInt, ofRatio, isNaN, magnitude_ofMagnitude (Nat.lt_of_le_of_lt finite (by decide))]
  exact decide_eq_false (Nat.not_lt.mpr finite)

/-- The key of a whole number as a float. -/
theorem orderKey?_ofInt (whole : Int) : (ofInt whole).orderKey? = some (keyOf whole) := by
  have bounded : nearestMagnitude whole.natAbs 1 < 0x80000000 :=
    Nat.lt_of_le_of_lt (Nat.min_le_right _ _) (by decide)
  have magnitude : (ofInt whole).magnitude = nearestMagnitude whole.natAbs 1 :=
    magnitude_ofMagnitude bounded
  have negative : (ofInt whole).isNegative = decide (whole < 0) := isNegative_ofMagnitude bounded
  simp only [orderKey?, isNaN_ofInt, magnitude, negative, keyOf, Bool.false_eq_true, ↓reduceIte,
    decide_eq_true_eq]
  split <;> rfl

/-- The keys of whole numbers are in their order. -/
theorem keyOf_mono {left right : Int} (le : left ≤ right) : keyOf left ≤ keyOf right := by
  have zero : nearestMagnitude 0 1 = 0 := by decide
  unfold keyOf
  split <;> split
  · have reversed := nearestMagnitude_mono Nat.one_pos (show right.natAbs ≤ left.natAbs by omega)
    omega
  · omega
  · omega
  · have kept := nearestMagnitude_mono Nat.one_pos (show left.natAbs ≤ right.natAbs by omega)
    omega

/-! ## Rounded whole numbers -/

/-- A whole number rounded to 24 binary digits, a half going to the even neighbour. -/
def roundedTo24 (whole : Nat) : Nat :=
  let unit := 2 ^ (whole.log2 - 23)
  let below := whole / unit
  let rest := whole % unit
  if unit < 2 * rest ∨ unit = 2 * rest ∧ ¬2 ∣ below then (below + 1) * unit else below * unit

/-- The same with a sign. -/
def signedTo24 (whole : Int) : Int :=
  if whole < 0 then -(roundedTo24 whole.natAbs : Int) else roundedTo24 whole.natAbs

/-- Up to `2 ^ 24` a whole number has no more digits. -/
theorem roundedTo24_of_le {whole : Nat} (small : whole ≤ 2 ^ 24) : roundedTo24 whole = whole := by
  rcases Nat.lt_or_eq_of_le small with below | rfl
  · have short : whole.log2 - 23 = 0 := by
      rcases Nat.eq_zero_or_pos whole with rfl | positive
      · rfl
      · have bits : whole.log2 < 24 := (Nat.log2_lt (Nat.ne_of_gt positive)).mpr below
        omega
    simp [roundedTo24, short, Nat.mod_one]
  · decide

private theorem signedTo24_of_le {whole : Int} (small : whole.natAbs ≤ 2 ^ 24) :
    signedTo24 whole = whole := by
  rw [signedTo24, roundedTo24_of_le small]
  omega

/-- Rounding up adds no more than what was left over. -/
theorem roundedTo24_le (whole : Nat) : roundedTo24 whole ≤ 2 * whole := by
  have parts := Nat.div_add_mod' whole (2 ^ (whole.log2 - 23))
  simp only [roundedTo24]
  split_ifs with up
  · rw [Nat.succ_mul]
    omega
  · omega

/-- Rounding to 24 digits is rounding to a multiple of the last one of them. -/
theorem roundedTo24_eq (whole : Nat) :
    roundedTo24 whole =
      roundHalfEven whole (2 ^ (whole.log2 - 23)) * 2 ^ (whole.log2 - 23) := by
  simp only [roundedTo24, roundHalfEven]
  split_ifs <;> first | rfl | omega

/-- A rounded quotient does not change with the unit. -/
theorem roundHalfEven_mul_right (numerator denominator : Nat) {unit : Nat} (positive : 0 < unit) :
    roundHalfEven (numerator * unit) (denominator * unit) =
      roundHalfEven numerator denominator := by
  simp only [roundHalfEven, Nat.mul_div_mul_right _ _ positive, Nat.mul_mod_mul_right,
    ← Nat.mul_assoc, Nat.mul_lt_mul_right positive]

/-- A significand with its exponent is the pattern of a number, also when it has been carried to the
next power of two. -/
theorem unitsAt_pattern {significand shift : Nat} (small : significand ≤ 2 ^ 24)
    (normal : 0 < shift → 0x800000 ≤ significand) :
    unitsAt (shift * 0x800000 + significand) = significand * 2 ^ shift := by
  rcases Nat.lt_or_eq_of_le small with below | rfl
  · have binade : (shift * 0x800000 + significand) / 0x800000 - 1 = shift := by omega
    rw [unitsAt, binade]
    congr 1
    omega
  · have binade : (shift * 0x800000 + 2 ^ 24) / 0x800000 - 1 = shift + 1 := by omega
    rw [unitsAt, binade, show shift * 0x800000 + 2 ^ 24 - (shift + 1) * 0x800000 = 2 ^ 23 by omega,
      ← Nat.pow_add, ← Nat.pow_add]
    congr 1
    omega

private theorem log2_mul_two_pow {whole : Nat} (positive : 0 < whole) (digits : Nat) :
    (whole * 2 ^ digits).log2 = whole.log2 + digits := by
  have nonzero := Nat.ne_of_gt positive
  rw [Nat.log2_eq_iff (Nat.mul_ne_zero nonzero (Nat.ne_of_gt (Nat.two_pow_pos digits))),
    Nat.pow_add, Nat.add_right_comm, Nat.pow_add]
  exact ⟨Nat.mul_le_mul_right _ (Nat.log2_self_le nonzero),
    Nat.mul_lt_mul_of_pos_right Nat.lt_log2_self (Nat.two_pow_pos digits)⟩

/-- Counted in units of `2 ^ -149`, a whole number is rounded to 24 digits as it is by itself. -/
theorem roundHalfEven_units {whole : Nat} (positive : 0 < whole) :
    roundHalfEven (whole * 2 ^ 149) (2 ^ (whole.log2 + 126)) * 2 ^ (whole.log2 + 126) =
      roundedTo24 whole * 2 ^ 149 := by
  rcases Nat.lt_or_ge whole.log2 23 with short | long
  · have small : whole ≤ 2 ^ 24 :=
      ((Nat.log2_lt (Nat.ne_of_gt positive)).mp (Nat.lt_succ_of_lt short)).le
    have aligned : whole * 2 ^ 149 = whole * 2 ^ (23 - whole.log2) * 2 ^ (whole.log2 + 126) := by
      rw [Nat.mul_assoc, ← Nat.pow_add]
      congr 2
      omega
    rw [aligned, roundHalfEven_mul _ (Nat.two_pow_pos _), ← aligned, roundedTo24_of_le small]
  · have unit : 2 ^ (whole.log2 + 126) = 2 ^ (whole.log2 - 23) * 2 ^ 149 := by
      rw [← Nat.pow_add]
      congr 1
      omega
    rw [unit, roundHalfEven_mul_right _ _ (Nat.two_pow_pos 149), ← Nat.mul_assoc,
      ← roundedTo24_eq]

/-- The nearest number to a whole number is the one with its first 24 digits. -/
theorem unitsAt_nearestMagnitude {whole : Nat} (bounded : whole < 2 ^ 127) :
    unitsAt (nearestMagnitude whole 1) = roundedTo24 whole * 2 ^ 149 := by
  rcases Nat.eq_zero_or_pos whole with rfl | positive
  · decide
  · have top : whole.log2 < 127 := (Nat.log2_lt (Nat.ne_of_gt positive)).mpr bounded
    have excess : (whole * 2 ^ 149 / 1).log2 - 23 = whole.log2 + 126 := by
      rw [Nat.div_one, log2_mul_two_pow positive]
      omega
    have below := lt_two_pow_excess (whole * 2 ^ 149) Nat.one_pos
    have above := @two_pow_excess_le (whole * 2 ^ 149) 1 Nat.one_pos (by omega)
    rw [excess, Nat.one_mul] at below above
    have unit := Nat.two_pow_pos (whole.log2 + 126)
    have small := roundHalfEven_mono (2 ^ (whole.log2 + 126)) below.le
    have normal := roundHalfEven_mono (2 ^ (whole.log2 + 126)) above
    rw [roundHalfEven_mul _ unit] at small normal
    simp only [nearestMagnitude, Nat.pow_eq]
    rw [excess, Nat.one_mul, Nat.min_eq_left (by rw [infinityPattern]; omega),
      unitsAt_pattern small fun _ => normal, roundHalfEven_units positive]

private theorem signedUnits_natCast (pattern : Nat) : signedUnits pattern = unitsAt pattern := by
  rw [signedUnits, if_neg (by omega), Int.natAbs_natCast]

private theorem signedUnits_neg (pattern : Nat) :
    signedUnits (-(pattern : Int)) = -(unitsAt pattern : Int) := by
  rw [signedUnits, Int.natAbs_neg, Int.natAbs_natCast]
  split
  · rfl
  · have zero : pattern = 0 := by omega
    rw [zero]
    rfl

/-- A whole number becomes the float with its first 24 digits. -/
theorem number?_ofInt {whole : Int} (bounded : whole.natAbs < 2 ^ 127) :
    (ofInt whole).number? = some (signedTo24 whole * 2 ^ 149) := by
  have rounded := unitsAt_nearestMagnitude bounded
  rw [number?_eq_map_orderKey?, orderKey?_ofInt, Option.map_some, Option.some_inj, keyOf,
    signedTo24]
  split
  · rw [signedUnits_neg, rounded, Nat.cast_mul, Int.neg_mul]
    rfl
  · rw [signedUnits_natCast, rounded, Nat.cast_mul]
    rfl

/-! ## Comparison by value -/

/-- A finite number counted in units of `2 ^ -149`, with its sign. -/
def signedCount (x : Binary32) : Int := if x.isNegative then -(x.units : Int) else x.units

def unitsValue (units : Int) : WithBot (WithTop ℚ) := ((units / 2 ^ 149 : ℚ) : WithTop ℚ)

/-- The value that a pattern stands for, if it is that of a number: one of the infinities or a
rational number. -/
def value (x : Binary32) : WithBot (WithTop ℚ) :=
  if x.isInfinite then if x.isNegative then ⊥ else ⊤ else unitsValue x.signedCount

/-- The number of a float is its count of units, with the sign. -/
theorem number?_eq_signedCount {x : Binary32} (number : x.isNaN = false) :
    x.number? = some x.signedCount := by
  rw [number?, number, if_neg Bool.false_ne_true, signedCount]
  split <;> rfl

private theorem unitsValue_lt_unitsValue {left right : Int} (less : left < right) :
    unitsValue left < unitsValue right := by
  rw [unitsValue, unitsValue, WithBot.coe_lt_coe, WithTop.coe_lt_coe]
  exact div_lt_div_of_pos_right (Int.cast_lt.mpr less) (by norm_num)

private theorem unitsValue_mul (whole : Int) :
    unitsValue (whole * 2 ^ 149) = (((whole : ℚ) : WithTop ℚ) : WithBot (WithTop ℚ)) := by
  rw [unitsValue, Int.cast_mul, Int.cast_pow, Int.cast_ofNat,
    mul_div_cancel_right₀ _ (pow_ne_zero 149 two_ne_zero)]

/-- The value of a count of units, infinite where the infinities are counted. -/
def countValue (count : Int) : WithBot (WithTop ℚ) :=
  if count ≤ -(unitsAt infinityPattern : Int) then ⊥
  else if (unitsAt infinityPattern : Int) ≤ count then ⊤
  else unitsValue count

/-- Counts of units have values in their order. -/
theorem countValue_lt {low high : Int} (least : -(unitsAt infinityPattern : Int) ≤ low)
    (greatest : high ≤ unitsAt infinityPattern) (less : low < high) :
    countValue low < countValue high := by
  have finiteLow : ¬ (unitsAt infinityPattern : Int) ≤ low := by omega
  have finiteHigh : ¬ high ≤ -(unitsAt infinityPattern : Int) := by omega
  rw [countValue, countValue, if_neg finiteLow, if_neg finiteHigh]
  split_ifs
  · exact bot_lt_top
  · exact WithBot.bot_lt_coe _
  · exact WithBot.coe_lt_coe.mpr (WithTop.coe_lt_top _)
  · exact unitsValue_lt_unitsValue less

private theorem countValue_of_lt {count : Int} (finite : count.natAbs < unitsAt infinityPattern) :
    countValue count = unitsValue count := by
  rw [countValue, if_neg (by omega), if_neg (by omega)]

private theorem natAbs_signedCount (x : Binary32) : x.signedCount.natAbs = x.units := by
  unfold signedCount
  split <;> omega

private theorem natAbs_signedCount_le {x : Binary32} (number : x.isNaN = false) :
    x.signedCount.natAbs ≤ unitsAt infinityPattern := by
  rw [natAbs_signedCount]
  exact unitsAt_strictMono.monotone (Nat.not_lt.mp (of_decide_eq_false number))

/-- The infinities are further from zero than any whole number up to `2 ^ 127`. -/
theorem lt_unitsAt_infinityPattern : 2 ^ 127 * 2 ^ 149 < unitsAt infinityPattern := by
  decide +kernel

/-- The value of a number is that of its count of units. -/
theorem value_eq_countValue {x : Binary32} (number : x.isNaN = false) :
    x.value = countValue x.signedCount := by
  rcases Nat.lt_or_eq_of_le (Nat.not_lt.mp (of_decide_eq_false number)) with smaller | same
  · have finite : x.isInfinite = false := decide_eq_false (Nat.ne_of_lt smaller)
    have fewer : x.units < unitsAt infinityPattern := unitsAt_strictMono smaller
    rw [value, finite, if_neg Bool.false_ne_true, countValue_of_lt]
    rwa [natAbs_signedCount]
  · have infinite : x.isInfinite = true := decide_eq_true same
    rw [value, infinite, if_pos rfl, signedCount, units_eq_unitsAt, same, countValue]
    cases x.isNegative with
    | true => simp only [↓reduceIte, le_refl]
    | false =>
        have positive := Nat.zero_lt_of_lt lt_unitsAt_infinityPattern
        simp only [Bool.false_eq_true, ↓reduceIte, le_refl]
        rw [if_neg (by omega)]

/-- **Numbers are compared by value.** The order of numbers is that of the values they stand
for. -/
theorem order_eq_compare_value {x y : Binary32} (numberX : x.isNaN = false)
    (numberY : y.isNaN = false) : x.order y = compare x.value y.value := by
  have boundX := natAbs_signedCount_le numberX
  have boundY := natAbs_signedCount_le numberY
  rw [order_eq_compare_number?, number?_eq_signedCount numberX, number?_eq_signedCount numberY,
    value_eq_countValue numberX, value_eq_countValue numberY]
  change compare x.signedCount y.signedCount = _
  rcases lt_trichotomy x.signedCount y.signedCount with less | same | greater
  · rw [compare_lt_iff_lt.mpr less, compare_lt_iff_lt.mpr]
    exact countValue_lt (by omega) (by omega) less
  · rw [same, compare_eq_iff_eq.mpr rfl, compare_eq_iff_eq.mpr rfl]
  · rw [compare_gt_iff_gt.mpr greater, compare_gt_iff_gt.mpr]
    exact countValue_lt (by omega) (by omega) greater

/-- Up to `2 ^ 126` the value of a whole number is that of its first 24 digits. -/
theorem value_ofInt {whole : Int} (bounded : whole.natAbs ≤ 2 ^ 126) :
    (ofInt whole).value = (((signedTo24 whole : ℚ) : WithTop ℚ) : WithBot (WithTop ℚ)) := by
  have number := isNaN_ofInt whole
  have count : (ofInt whole).signedCount = signedTo24 whole * 2 ^ 149 :=
    Option.some_inj.mp ((number?_eq_signedCount number).symm.trans
      (number?_ofInt (Nat.lt_of_le_of_lt bounded (by decide))))
  rw [value_eq_countValue number, count, countValue_of_lt, unitsValue_mul]
  have rounded : (signedTo24 whole).natAbs ≤ 2 ^ 127 := by
    have double := roundedTo24_le whole.natAbs
    rw [signedTo24]
    split <;> omega
  rw [Int.natAbs_mul]
  exact Nat.lt_of_le_of_lt (Nat.mul_le_mul_right _ rounded) lt_unitsAt_infinityPattern

/-- **Exact comparison.** A number is compared with a whole number up to `2 ^ 24` by their exact
values. -/
theorem order_ofInt {x : Binary32} (number : x.isNaN = false) {whole : Int}
    (small : whole.natAbs ≤ 2 ^ 24) :
    x.order (ofInt whole) = compare x.value (((whole : ℚ) : WithTop ℚ) : WithBot (WithTop ℚ)) := by
  rw [order_eq_compare_value number (isNaN_ofInt whole),
    value_ofInt (Nat.le_trans small (by decide)), signedTo24_of_le small]

end RowQuery.Binary32
