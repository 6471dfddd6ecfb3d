import RowQuery.Proofs.NearestFloat
import RowQuery.Proofs.NumeralReading

/-! # Shortest decimals read back

The shortest decimal of a finite number lies in its reach (`shortest_contains`): the search stops at
nine digits at the latest, since on that grid the point below the number is nearer than a quarter of
a unit. The text of a number therefore reads as the number (`read?_render`).
-/

namespace RowQuery.Binary32

/-- A finite magnitude as a number. -/
def size (x : Binary32) : ℚ := x.units / 2 ^ 149

/-! ## The search -/

/-- The ratio to a power of ten has a denominator. -/
theorem ratioTo_pos (x : Binary32) (exponent : Int) : 0 < (x.ratioTo exponent).2 :=
  Nat.mul_pos (Nat.two_pow_pos 149) (Nat.pow_pos (by decide))

/-- A ratio to a power of ten. -/
theorem ratioTo_div (x : Binary32) (exponent : Int) :
    ((x.ratioTo exponent).1 : ℚ) / (x.ratioTo exponent).2 = x.size / 10 ^ exponent := by
  have power := ratio_eq 1 exponent
  rw [Nat.one_mul, Nat.cast_one, one_mul] at power
  rw [← power, size, ratioTo]
  simp only [Nat.pow_eq, Nat.cast_mul, Nat.cast_pow, Nat.cast_ofNat]
  field_simp

/-- A magnitude is no less than a power of ten if its ratio to it is no less than one. -/
theorem pow_le_size_iff (x : Binary32) (exponent : Int) :
    (10 : ℚ) ^ exponent ≤ x.size ↔ (x.ratioTo exponent).2 ≤ (x.ratioTo exponent).1 := by
  have scale : (0 : ℚ) < (x.ratioTo exponent).2 := Nat.cast_pos.mpr (x.ratioTo_pos exponent)
  rw [← one_le_div₀ (zpow_pos (by norm_num) exponent), ← ratioTo_div, one_le_div₀ scale,
    Nat.cast_le]

/-- The search for the leading digit ends at a power of ten that the magnitude reaches, if it
reaches the last one. -/
theorem pow_leadingFrom_le (x : Binary32) : ∀ (fuel : Nat) (bound : Int),
    (10 : ℚ) ^ (bound - fuel) ≤ x.size → (10 : ℚ) ^ x.leadingFrom fuel bound ≤ x.size
  | 0, bound, reached => by simpa [leadingFrom] using reached
  | fuel + 1, bound, reached => by
      simp only [leadingFrom]
      split
      · rename_i found
        exact (x.pow_le_size_iff bound).mpr found
      · refine x.pow_leadingFrom_le fuel (bound - 1) ?_
        rwa [show bound - 1 - fuel = bound - (fuel + 1 : ℕ) by omega]

/-- A nonzero magnitude reaches the power of ten of its leading digit. -/
theorem pow_leadingExponent_le {x : Binary32} (nonzero : x.magnitude ≠ 0) :
    (10 : ℚ) ^ x.leadingExponent ≤ x.size := by
  refine x.pow_leadingFrom_le 83 38 ?_
  have unit : (1 : ℚ) ≤ x.units :=
    Nat.one_le_cast.mpr (Nat.mul_pos (significand_pos nonzero) (Nat.two_pow_pos _))
  calc
    (10 : ℚ) ^ ((38 : Int) - (83 : ℕ)) ≤ 1 / 2 ^ 149 := by norm_num
    _ ≤ x.size := div_le_div_of_nonneg_right unit (by norm_num)

/-- The whole multiple of a power of ten below a magnitude. -/
def below (x : Binary32) (exponent : Int) : Nat := (x.ratioTo exponent).1 / (x.ratioTo exponent).2

/-- The point of a grid is chosen by the two that are next to a number. -/
theorem nearestOn?_eq (tie : Tie) (x : Binary32) (exponent : Int) :
    x.nearestOn? tie exponent =
      gridPoint? tie (x.ratioTo exponent).1 (x.ratioTo exponent).2 exponent
        (x.admits (x.below exponent) exponent) (x.admits (x.below exponent + 1) exponent) := rfl

/-- What is found on a grid is admitted. -/
theorem admits_of_nearestOn? {tie : Tie} {x : Binary32} {exponent : Int} {decimal : Decimal}
    (found : x.nearestOn? tie exponent = some decimal) :
    x.admits decimal.digits decimal.exponent = true := by
  rw [nearestOn?_eq] at found
  cases lower : x.admits (x.below exponent) exponent with
  | true =>
      cases upper : x.admits (x.below exponent + 1) exponent with
      | true =>
          rw [lower, upper, gridPoint?, Option.some_inj] at found
          subst found
          cases tie.upward (x.ratioTo exponent).1 (x.ratioTo exponent).2 with
          | true => exact upper
          | false => exact lower
      | false =>
          rw [lower, upper, gridPoint?, Option.some_inj] at found
          subst found
          exact lower
  | false =>
      cases upper : x.admits (x.below exponent + 1) exponent with
      | true =>
          rw [lower, upper, gridPoint?, Option.some_inj] at found
          subst found
          exact upper
      | false =>
          rw [lower, upper, gridPoint?] at found
          cases found

/-- If the point below the number is admitted, something is found on its grid. -/
theorem nearestOn?_ne_none {tie : Tie} {x : Binary32} {exponent : Int}
    (admitted : x.admits (x.below exponent) exponent = true) :
    x.nearestOn? tie exponent ≠ none := by
  rw [nearestOn?_eq, admitted]
  cases x.admits (x.below exponent + 1) exponent with
  | true => nofun
  | false => nofun

/-- **The search stops at the first grid with an admitted point,** if there is one among its
grids. -/
theorem shortestFrom_spec {tie : Tie} {x : Binary32} : ∀ (fuel : Nat) (exponent : Int)
    (steps : Nat), steps < fuel → x.nearestOn? tie (exponent - steps) ≠ none →
    ∃ first : Nat, x.nearestOn? tie (exponent - first) = some (x.shortestFrom tie fuel exponent) ∧
      ∀ earlier < first, x.nearestOn? tie (exponent - earlier) = none
  | fuel + 1, exponent, steps, bounded, occupied => by
      rw [shortestFrom]
      cases found : x.nearestOn? tie exponent with
      | some decimal =>
          refine ⟨0, ?_, nofun⟩
          rw [Nat.cast_zero, sub_zero, found, Option.getD_some]
      | none =>
          cases steps with
          | zero =>
              rw [Nat.cast_zero, sub_zero] at occupied
              exact absurd found occupied
          | succ steps =>
              have next (count : Nat) : exponent - 1 - count = exponent - (count + 1 : ℕ) := by
                omega
              rw [← next] at occupied
              obtain ⟨first, stops, passed⟩ :=
                shortestFrom_spec fuel (exponent - 1) steps (by omega) occupied
              refine ⟨first + 1, by rw [← next, stops, Option.getD_none], fun earlier before => ?_⟩
              cases earlier with
              | zero => rwa [Nat.cast_zero, sub_zero]
              | succ earlier =>
                  rw [← next]
                  exact passed earlier (by omega)

/-- The grid point below a number is not above it. -/
theorem below_le (x : Binary32) (exponent : Int) :
    (x.below exponent : ℚ) * 10 ^ exponent ≤ x.size := by
  have step : (0 : ℚ) < 10 ^ exponent := zpow_pos (by norm_num) exponent
  have scale : (0 : ℚ) < (x.ratioTo exponent).2 := Nat.cast_pos.mpr (x.ratioTo_pos exponent)
  rw [← le_div_iff₀ step, ← ratioTo_div, le_div_iff₀ scale]
  exact_mod_cast Nat.div_mul_le_self _ _

/-- The next grid point is above the number. -/
theorem lt_below_succ (x : Binary32) (exponent : Int) :
    x.size < ((x.below exponent : ℚ) + 1) * 10 ^ exponent := by
  have step : (0 : ℚ) < 10 ^ exponent := zpow_pos (by norm_num) exponent
  have scale : (0 : ℚ) < (x.ratioTo exponent).2 := Nat.cast_pos.mpr (x.ratioTo_pos exponent)
  rw [← div_lt_iff₀ step, ← ratioTo_div, div_lt_iff₀ scale]
  exact_mod_cast (Nat.div_lt_iff_lt_mul (x.ratioTo_pos exponent)).mp (Nat.lt_succ_self _)

private theorem units_eq (x : Binary32) : (x.units : ℚ) = 2 ^ 149 * x.size := by
  rw [size]
  field_simp

/-- The reach goes down by a quarter of a unit at least, and up by half a unit. -/
theorem reach_bounds {x : Binary32} (nonzero : x.magnitude ≠ 0) :
    (x.reach.lower : ℚ) + 2 ^ x.shift ≤ 4 * x.units ∧
      (x.reach.upper : ℚ) = 4 * x.units + 2 * 2 ^ x.shift := by
  have lower := lower_mul nonzero 1
  have upper := x.upper_mul 1
  rw [Nat.mul_one, Nat.mul_one] at lower upper
  change _ = 4 * x.units at lower
  change _ = 4 * x.units + _ at upper
  constructor
  · have quarter : x.reach.lower + 2 ^ x.shift ≤ 4 * x.units := by
      split at lower <;> omega
    exact_mod_cast quarter
  · exact_mod_cast upper

/-- On a grid with points no further apart than a quarter of the number's unit, the point below the
number is admitted. -/
theorem admits_below {x : Binary32} (nonzero : x.magnitude ≠ 0) {exponent : Int}
    (fine : 4 * (2 ^ 149 * (10 : ℚ) ^ exponent) ≤ 2 ^ x.shift) :
    x.admits (x.below exponent) exponent = true := by
  rw [admits_iff_contains]
  obtain ⟨lower, upper⟩ := reach_bounds nonzero
  have unit : (0 : ℚ) < 2 ^ x.shift := by positivity
  have under := x.below_le exponent
  have past := x.lt_below_succ exponent
  have units := x.units_eq
  have inside : (x.reach.lower : ℚ) < 4 * (2 ^ 149 * (x.below exponent * 10 ^ exponent)) ∧
      4 * (2 ^ 149 * ((x.below exponent : ℚ) * 10 ^ exponent)) < x.reach.upper := by
    constructor
    · linarith
    · linarith
  unfold Reach.Contains
  split
  · exact ⟨inside.1.le, inside.2.le⟩
  · exact inside

/-- On the ninth grid the point below a nonzero number is admitted: a significand has 24 bits, so
the points are no further apart than a quarter of its unit. -/
theorem admits_below_leading {x : Binary32} (nonzero : x.magnitude ≠ 0) :
    x.admits (x.below (x.leadingExponent - (8 : ℕ))) (x.leadingExponent - (8 : ℕ)) = true := by
  refine admits_below nonzero ?_
  have reached := pow_leadingExponent_le nonzero
  have units := x.units_eq
  have few : (x.units : ℚ) ≤ 2 ^ 24 * 2 ^ x.shift := by
    exact_mod_cast Nat.mul_le_mul_right (2 ^ x.shift) x.significand_lt.le
  have finer : (10 : ℚ) ^ (x.leadingExponent - (8 : ℕ)) = 10 ^ x.leadingExponent / 10 ^ 8 := by
    rw [zpow_sub₀ (by norm_num), zpow_natCast]
  have unit : (0 : ℚ) < 2 ^ x.shift := by positivity
  rw [finer]
  linarith

/-- **Nine digits suffice.** The search for the shortest decimal of a nonzero number ends at the
first grid with an admitted point. -/
theorem shortestFrom_leading {x : Binary32} (tie : Tie) (nonzero : x.magnitude ≠ 0) :
    ∃ first : Nat, x.nearestOn? tie (x.leadingExponent - first) =
        some (x.shortestFrom tie 9 x.leadingExponent) ∧
      ∀ earlier < first, x.nearestOn? tie (x.leadingExponent - earlier) = none :=
  shortestFrom_spec 9 x.leadingExponent 8 (by decide)
    (nearestOn?_ne_none (admits_below_leading nonzero))

/-! ## Values -/

/-- Dropping zeros at the end of a decimal keeps its value. -/
theorem value_dropZeros : ∀ (bound : Nat) (decimal : Decimal),
    (Decimal.dropZeros bound decimal).value = decimal.value
  | 0, _ => rfl
  | bound + 1, decimal => by
      rw [Decimal.dropZeros]
      split
      · rename_i divisible
        rw [value_dropZeros bound]
        have whole : decimal.digits = decimal.digits / 10 * 10 := by omega
        simp only [Decimal.value]
        rw [zpow_add₀ (by norm_num), zpow_one]
        nth_rewrite 2 [whole]
        push_cast
        ring
      · rfl

/-- **The shortest decimal lies in the reach.** -/
theorem shortest_contains {x : Binary32} (tie : Tie) (nonzero : x.magnitude ≠ 0) :
    x.reach.Contains (x.shortest tie).value := by
  obtain ⟨first, found, -⟩ := shortestFrom_leading tie nonzero
  rw [shortest, if_neg nonzero, Decimal.trim, value_dropZeros]
  exact (x.admits_iff_contains _ _).mp (admits_of_nearestOn? found)

/-- Whatever lies in the reach of a finite number has no more than 39 digits before its point and a
digit other than zero among the first 46 after it. -/
theorem value_bounds_of_contains {x : Binary32} {value : ℚ} (nonzero : x.magnitude ≠ 0)
    (finite : x.magnitude < infinityPattern) (inside : x.reach.Contains value) :
    (10 : ℚ) ^ (-46 : Int) < value ∧ value < 10 ^ (39 : Int) := by
  obtain ⟨low, high⟩ := inside.bounds
  obtain ⟨-, upper⟩ := reach_bounds nonzero
  have least : (2 : ℚ) ≤ x.reach.lower := by
    have lower := lower_mul nonzero 1
    have unit := Nat.mul_le_mul_right (2 ^ x.shift) (significand_pos nonzero)
    have one := Nat.one_le_two_pow (n := x.shift)
    have two : 2 ≤ x.reach.lower := by
      rw [Nat.mul_one, Nat.mul_one] at lower
      split at lower <;> omega
    exact_mod_cast two
  have greatest : (x.reach.upper : ℚ) ≤ 2 ^ 26 * 2 ^ 253 := by
    have shifted : x.shift ≤ 253 := by
      unfold infinityPattern at finite
      unfold shift
      omega
    have scaled : (2 : ℚ) ^ x.shift ≤ 2 ^ 253 := pow_le_pow_right₀ (by norm_num) shifted
    have few : (4 * x.units + 2 * 2 ^ x.shift : ℚ) ≤ 2 ^ 26 * 2 ^ x.shift := by
      have most : 4 * x.units + 2 * 2 ^ x.shift ≤ 2 ^ 26 * 2 ^ x.shift := by
        have bound := Nat.mul_le_mul_right (2 ^ x.shift) (Nat.succ_le_of_lt x.significand_lt)
        rw [Nat.succ_mul] at bound
        simp only [units, Nat.pow_eq]
        omega
      exact_mod_cast most
    rw [upper]
    linarith
  constructor
  · have tiny : (10 : ℚ) ^ (-46 : Int) < 2 / (4 * 2 ^ 149) := by norm_num
    have above : 2 / (4 * 2 ^ 149) ≤ value := by
      rw [div_le_iff₀ (by norm_num)]
      linarith
    exact lt_of_lt_of_le tiny above
  · have huge : (2 ^ 26 * 2 ^ 253 : ℚ) / (4 * 2 ^ 149) < 10 ^ (39 : Int) := by norm_num
    have under : value ≤ 2 ^ 26 * 2 ^ 253 / (4 * 2 ^ 149) := by
      rw [le_div_iff₀ (by norm_num)]
      linarith
    exact lt_of_le_of_lt under huge

/-- The magnitude of a signed pattern is the pattern without the sign. -/
theorem magnitude_ofMagnitude {negative : Bool} {magnitude : Nat}
    (bounded : magnitude < 0x80000000) :
    (ofMagnitude negative magnitude).magnitude = magnitude := by
  unfold Binary32.magnitude ofMagnitude
  cases negative
  · rw [if_neg Bool.false_ne_true, UInt32.toNat_ofNat']
    omega
  · rw [if_pos rfl, UInt32.toNat_ofNat']
    omega

/-- A number is made of its sign and its magnitude. -/
theorem ofMagnitude_magnitude (x : Binary32) : ofMagnitude x.isNegative x.magnitude = x := by
  obtain ⟨bits⟩ := x
  have bounded := bits.toNat_lt
  rw [ofMagnitude, Binary32.mk.injEq, ← UInt32.toNat_inj, UInt32.toNat_ofNat']
  by_cases negative : 0x80000000 ≤ bits.toNat
  · simp only [isNegative, magnitude, negative, decide_true, ↓reduceIte]
    omega
  · simp only [isNegative, magnitude, negative, decide_false, Bool.false_eq_true, ↓reduceIte]
    omega

/-- **Numerals in the reach read as the number.** -/
theorem ofNumeral_of_contains {x : Binary32} {numeral : Numeral} (normal : numeral.Normal)
    (nonzero : x.magnitude ≠ 0) (finite : x.magnitude < infinityPattern)
    (inside : x.reach.Contains numeral.value) : ofNumeral x.isNegative numeral = x := by
  obtain ⟨low, high⟩ := value_bounds_of_contains nonzero finite inside
  have nonempty : numeral.digits ≠ [] := by
    intro empty
    have zero : numeral.value = 0 := by
      rw [Numeral.value, empty, show Numeral.digitsValue [] = 0 from rfl, Nat.cast_zero, zero_mul]
    rw [zero] at low
    exact absurd low (not_lt.mpr (zpow_pos (by norm_num) _).le)
  obtain ⟨least, most⟩ := normal.value_bounds nonempty
  have large : -46 ≤ numeral.leading := by
    have powers := (zpow_lt_zpow_iff_right₀ (by norm_num)).mp (lt_trans low most)
    omega
  have small : numeral.leading ≤ 38 := by
    have powers := (zpow_lt_zpow_iff_right₀ (by norm_num)).mp (lt_of_le_of_lt least high)
    omega
  have rounded : nearestMagnitude
      (Numeral.digitsValue numeral.digits * 10 ^ numeral.exponent.toNat)
      (10 ^ (-numeral.exponent).toNat) = x.magnitude := by
    refine nearestMagnitude_of_contains (Nat.pow_pos (by decide)) nonzero finite.le ?_
    rw [ratio_eq]
    exact inside
  have kept : ¬(numeral.digits = [] ∨ numeral.leading < -46) :=
    not_or.mpr ⟨nonempty, not_lt.mpr large⟩
  simp only [ofNumeral, if_neg kept, if_neg (not_lt.mpr small), ofRatio, Nat.pow_eq, rounded,
    ofMagnitude_magnitude]

/-! ## Text -/

/-- The text of a finite magnitude in a layout. -/
def bodyChars (layout : Layout) (x : Binary32) : List Char :=
  if layout.positional (x.shortest layout.tie).leading then
    (x.shortest layout.tie).positionalChars layout.pointZero
  else (x.shortest layout.tie).scientificChars layout.plusSign

/-- A finite number is written as its magnitude, behind a minus sign if it is negative. -/
theorem render_of_finite (layout : Layout) {x : Binary32} (finite : x.magnitude < infinityPattern) :
    x.render layout =
      String.ofList (if x.isNegative then '-' :: x.bodyChars layout else x.bodyChars layout) := by
  have number : ¬x.isNaN = true := by
    rw [isNaN, decide_eq_true_eq]
    exact Nat.not_lt.mpr finite.le
  have bounded : ¬x.isInfinite = true := by
    rw [isInfinite, decide_eq_true_eq]
    exact finite.ne
  rw [render, if_neg number, if_neg bounded]
  rfl

/-- The text of a finite magnitude as a literal spells its shortest decimal. -/
theorem spells_literalChars {x : Binary32} (finite : x.magnitude < infinityPattern) :
    Decimal.Spells (x.bodyChars .literal) (x.shortest .up) := by
  change Decimal.Spells (if Layout.literal.positional (x.shortest .up).leading then
    (x.shortest .up).positionalChars true else (x.shortest .up).scientificChars false) _
  split
  · exact Decimal.spells_positionalChars _
  · rename_i far
    have nonzero : x.magnitude ≠ 0 := by
      intro zero
      rw [shortest, if_pos zero] at far
      exact far rfl
    obtain ⟨low, high⟩ :=
      value_bounds_of_contains nonzero finite (shortest_contains .up nonzero)
    have positive : (x.shortest .up).digits ≠ 0 := by
      intro zero
      rw [Decimal.value, zero, Nat.cast_zero, zero_mul] at low
      exact absurd low (not_lt.mpr (zpow_pos (by norm_num) _).le)
    obtain ⟨least, most⟩ := Decimal.value_bounds positive
    have above := (zpow_lt_zpow_iff_right₀ (by norm_num)).mp (lt_trans low most)
    have below := (zpow_lt_zpow_iff_right₀ (by norm_num)).mp (lt_of_le_of_lt least high)
    exact Decimal.spells_scientificChars (by omega)

/-- A numeral that spells the shortest decimal of a finite number reads as the number. -/
theorem ofNumeral_of_shortest {x : Binary32} (finite : x.magnitude < infinityPattern)
    {numeral : Numeral} (normal : numeral.Normal)
    (same : numeral.value = (x.shortest .up).value) : ofNumeral x.isNegative numeral = x := by
  by_cases zero : x.magnitude = 0
  · have empty : numeral.digits = [] := by
      by_contra nonempty
      have positive := lt_of_lt_of_le (zpow_pos (by norm_num) _) (normal.value_bounds nonempty).1
      rw [same, shortest, if_pos zero, Decimal.value, Nat.cast_zero, zero_mul] at positive
      exact lt_irrefl _ positive
    rw [ofNumeral, if_pos (.inl empty), ← zero, ofMagnitude_magnitude]
  · refine ofNumeral_of_contains normal zero finite ?_
    rw [same]
    exact shortest_contains .up zero

/-- A number, with one pattern for all that are not numbers. -/
def identifyNaN (x : Binary32) : Binary32 := if x.isNaN then nan else x

/-- A float is not a number, infinite or finite. -/
theorem isNaN_or_infinite_or_finite (x : Binary32) :
    x.isNaN = true ∨ x = infinity x.isNegative ∨ x.magnitude < infinityPattern := by
  rcases Nat.lt_trichotomy x.magnitude infinityPattern with finite | infinite | beyond
  · exact .inr (.inr finite)
  · rw [infinity, ← infinite, ofMagnitude_magnitude]
    exact .inr (.inl rfl)
  · exact .inl (decide_eq_true beyond)

/-- The sign in front of digits is split off. -/
theorem splitSign_signed {text : List Char} (negative : Bool)
    (starts : ∃ c rest, text = c :: rest ∧ c.isDigit = true) :
    Numeral.splitSign (if negative then '-' :: text else text) = (negative, text) := by
  obtain ⟨c, rest, rfl, digit⟩ := starts
  cases negative with
  | true => rfl
  | false => exact Numeral.splitSign_of_isDigit digit rest

/-- **Numbers read back.** The text of a number reads as the number, and the text of what is not a
number as the pattern for it. -/
theorem read?_render (x : Binary32) :
    read? (x.render .literal).toList = some x.identifyNaN := by
  rcases x.isNaN_or_infinite_or_finite with absent | infinite | finite
  · rw [render, if_pos absent, identifyNaN, if_pos absent]
    decide
  · rw [infinite]
    cases x.isNegative <;> decide
  · have number : ¬x.isNaN = true := by
      rw [isNaN, decide_eq_true_eq]
      exact Nat.not_lt.mpr finite.le
    have spelled := spells_literalChars finite
    obtain ⟨numeral, readable, same⟩ := spelled.reads
    rw [render_of_finite .literal finite, String.toList_ofList, identifyNaN, if_neg number]
    simp only [read?, splitSign_signed x.isNegative spelled.starts, readable]
    rw [ofNumeral_of_shortest finite (Numeral.normal_of_read? readable) same]

end RowQuery.Binary32
