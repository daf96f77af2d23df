import SignedAdmission.Decimal.Shortest
import SignedAdmission.Proofs.Decimal.Rounding

/-! Shortest decimals of doubles. Seventeen digits always suffice to find a decimal that rounds to a
given double, and no decimal rounds to two of them. -/
namespace SignedAdmission.Binary64

/-- The value of a double without its sign. -/
def magnitude (x : Binary64) : ℚ :=
  x.significand * 2 ^ x.exponent

def Decimal.value (d : Decimal) : ℚ :=
  d.digits * 10 ^ d.exponent

/-- The distance down to where numbers begin to round to the double below, in units of the last
place. -/
def gapBelow (x : Binary64) : ℚ :=
  if x.significand = 2 ^ 52 ∧ -1074 < x.exponent then 1 / 4 else 1 / 2

/-- Numbers that round to a positive double. Those halfway to a neighbour round to an even
significand. -/
structure RoundsTo (q : ℚ) (x : Binary64) : Prop where
  low : (x.significand - x.gapBelow) * 2 ^ x.exponent ≤ q
  high : q ≤ (x.significand + 1 / 2) * 2 ^ x.exponent
  odd : x.significand % 2 = 1 →
    (x.significand - x.gapBelow) * 2 ^ x.exponent < q ∧
      q < (x.significand + 1 / 2) * 2 ^ x.exponent

section Intervals

variable {x y : Binary64} {q : ℚ}

theorem magnitude_eq_ratio (x : Binary64) : x.magnitude = x.ratio.1 / x.ratio.2 := by
  have split := pow_toNat Nat.two_pos x.exponent
  rw [Nat.cast_ofNat] at split
  rw [magnitude, eq_div_iff (by exact_mod_cast (x.ratio_den_pos).ne')]
  simp only [ratio, Nat.pow_eq]
  push_cast
  rw [split, mul_assoc]

theorem gapBelow_le (x : Binary64) : x.gapBelow ≤ 1 / 2 := by
  rw [gapBelow]
  split <;> norm_num

/-- Of two doubles with one exponent, numbers in between round to one only. -/
theorem not_roundsTo_of_lt (sameExponent : x.exponent = y.exponent)
    (less : x.significand < y.significand) (left : RoundsTo q x) : ¬ RoundsTo q y := by
  intro right
  obtain ⟨-, high, oddLeft⟩ := left
  obtain ⟨low, -, oddRight⟩ := right
  rw [← sameExponent] at low oddRight
  generalize x.exponent = e at *
  have unit : (0 : ℚ) < 2 ^ e := by positivity
  have lower : ((y.significand : ℚ) - 1 / 2) * 2 ^ e ≤ (y.significand - y.gapBelow) * 2 ^ e :=
    mul_le_mul_of_nonneg_right (by linarith [y.gapBelow_le]) unit.le
  have next : (x.significand : ℚ) + 1 ≤ y.significand := by exact_mod_cast less
  have between : ((x.significand : ℚ) + 1 / 2) * 2 ^ e ≤ (y.significand - 1 / 2) * 2 ^ e :=
    mul_le_mul_of_nonneg_right (by linarith) unit.le
  -- Only a number halfway between neighbours could round to both, and one of them is odd.
  obtain odd | even := Nat.mod_two_eq_zero_or_one x.significand |>.symm
  · linarith [(oddLeft odd).2]
  obtain odd | even' := Nat.mod_two_eq_zero_or_one y.significand |>.symm
  · linarith [(oddRight odd).1]
  · have apart : (x.significand : ℚ) + 2 ≤ y.significand := by
      exact_mod_cast (by omega : x.significand + 2 ≤ y.significand)
    have strictly : ((x.significand : ℚ) + 1 / 2) * 2 ^ e < (y.significand - 1 / 2) * 2 ^ e :=
      mul_lt_mul_of_pos_right (by linarith) unit
    linarith

/-- Numbers that round to a double do not round to one of a greater exponent. -/
theorem not_roundsTo_of_exponent_lt (hx : x.Canonical) (hy : y.Canonical)
    (less : x.exponent < y.exponent) (left : RoundsTo q x) : ¬ RoundsTo q y := by
  intro right
  have normal : -1074 < y.exponent := hx.le_exponent.trans_lt less
  have unit : (0 : ℚ) < 2 ^ x.exponent := by positivity
  have double : (2 : ℚ) * 2 ^ x.exponent ≤ 2 ^ y.exponent := by
    rw [← zpow_one_add₀ two_ne_zero]
    exact zpow_le_zpow_right₀ one_le_two (by omega)
  have full : (2 ^ 52 : ℚ) ≤ y.significand := by exact_mod_cast hy.normal normal
  have fits : (x.significand : ℚ) + 1 ≤ 2 ^ 53 := by exact_mod_cast hx.significand_lt
  -- Even the number that lies halfway to the least double of the next exponent rounds up to it.
  have lower : ((2 ^ 53 : ℚ) - 1 / 2) * 2 ^ x.exponent ≤
      (y.significand - y.gapBelow) * 2 ^ y.exponent := by
    have steps : (2 ^ 52 : ℚ) - 1 / 4 ≤ y.significand - y.gapBelow := by
      rw [gapBelow]
      split
      case isTrue => linarith
      case isFalse inner =>
        have larger : (2 ^ 52 : ℚ) + 1 ≤ y.significand := by
          have apart : 2 ^ 52 < y.significand :=
            lt_of_le_of_ne (hy.normal normal) fun same => inner ⟨same.symm, normal⟩
          exact_mod_cast apart
        linarith
    calc ((2 ^ 53 : ℚ) - 1 / 2) * 2 ^ x.exponent = (2 ^ 52 - 1 / 4) * (2 * 2 ^ x.exponent) := by
          ring
      _ ≤ (y.significand - y.gapBelow) * 2 ^ y.exponent := by
          exact mul_le_mul steps double (by positivity) (by linarith)
  have upper : ((x.significand : ℚ) + 1 / 2) * 2 ^ x.exponent ≤
      (2 ^ 53 - 1 / 2) * 2 ^ x.exponent :=
    mul_le_mul_of_nonneg_right (by linarith) unit.le
  obtain odd | even := Nat.mod_two_eq_zero_or_one x.significand |>.symm
  · linarith [(left.odd odd).2, right.low]
  · have smaller : (x.significand : ℚ) + 2 ≤ 2 ^ 53 := by
      exact_mod_cast (by have := hx.significand_lt; omega : x.significand + 2 ≤ 2 ^ 53)
    have strictly : ((x.significand : ℚ) + 1 / 2) * 2 ^ x.exponent <
        (2 ^ 53 - 1 / 2) * 2 ^ x.exponent :=
      mul_lt_mul_of_pos_right (by linarith) unit
    linarith [left.high, right.low]

/-- No number rounds to two doubles. -/
theorem roundsTo_unique (hx : x.Canonical) (hy : y.Canonical) (left : RoundsTo q x)
    (right : RoundsTo q y) : x.significand = y.significand ∧ x.exponent = y.exponent := by
  have sameExponent : x.exponent = y.exponent := by
    refine le_antisymm (not_lt.mp fun less => ?_) (not_lt.mp fun less => ?_)
    · exact not_roundsTo_of_exponent_lt hy hx less right left
    · exact not_roundsTo_of_exponent_lt hx hy less left right
  refine ⟨le_antisymm (not_lt.mp fun less => ?_) (not_lt.mp fun less => ?_), sameExponent⟩
  · exact not_roundsTo_of_lt sameExponent.symm less right left
  · exact not_roundsTo_of_lt sameExponent less left right

end Intervals

section Grid

variable {x : Binary64} {n : ℕ} {k : ℤ}

/-- The scale of an interval: what its numbers are over. -/
theorem unit_eq (x : Binary64) :
    ((2 ^ x.exponent.toNat : ℕ) : ℚ) * 4 = 2 ^ x.exponent * x.roundingInterval.den := by
  have split := pow_toNat Nat.two_pos x.exponent
  rw [Nat.cast_ofNat] at split
  simp only [roundingInterval, ratio, Nat.pow_eq]
  push_cast
  rw [split]
  ring

theorem interval_value (x : Binary64) :
    (x.roundingInterval.value : ℚ) = x.significand * 2 ^ x.exponent * x.roundingInterval.den := by
  rw [mul_assoc, ← unit_eq]
  simp only [roundingInterval, ratio, Nat.pow_eq]
  push_cast
  ring

theorem interval_high (x : Binary64) :
    (x.roundingInterval.high : ℚ) =
      (x.significand + 1 / 2) * 2 ^ x.exponent * x.roundingInterval.den := by
  rw [mul_assoc, ← unit_eq]
  simp only [roundingInterval, ratio, Nat.pow_eq]
  push_cast
  ring

theorem interval_low (positive : 0 < x.significand) :
    (x.roundingInterval.low : ℚ) =
      (x.significand - x.gapBelow) * 2 ^ x.exponent * x.roundingInterval.den := by
  rw [mul_assoc, ← unit_eq]
  have room (below : ℕ) (h : below ≤ 2 * 2 ^ x.exponent.toNat) :
      below ≤ 4 * (x.significand * 2 ^ x.exponent.toNat) := by
    have least := Nat.mul_le_mul_right (2 ^ x.exponent.toNat) positive
    omega
  simp only [roundingInterval, ratio, Nat.pow_eq, gapBelow]
  split
  case isTrue =>
    rw [Nat.cast_sub (room _ (by omega))]
    push_cast
    ring
  case isFalse =>
    rw [Nat.cast_sub (room _ (le_refl _))]
    push_cast
    ring

theorem interval_den_pos (x : Binary64) : 0 < x.roundingInterval.den :=
  Nat.mul_pos (by decide) x.ratio_den_pos

/-- Whether a place on a grid is inside of the interval of a double. -/
def inside (x : Binary64) (k : ℤ) (n : ℕ) : Bool :=
  { x.roundingInterval with
    low := x.roundingInterval.low * 10 ^ (-k).toNat
    high := x.roundingInterval.high * 10 ^ (-k).toNat }.contains
      (n * (10 ^ k.toNat * x.roundingInterval.den))

/-- What the numbers of an interval and of a grid are multiples of when they are compared. -/
def scale (x : Binary64) (k : ℤ) : ℚ :=
  x.roundingInterval.den * 10 ^ (-k).toNat

theorem scale_pos (x : Binary64) (k : ℤ) : 0 < x.scale k := by
  have den_pos : (0 : ℚ) < x.roundingInterval.den := by exact_mod_cast x.interval_den_pos
  rw [scale]
  positivity

theorem scaled_place (x : Binary64) (k : ℤ) (n : ℕ) :
    ((n * (10 ^ k.toNat * x.roundingInterval.den) : ℕ) : ℚ) = n * 10 ^ k * x.scale k := by
  have split := pow_toNat (b := 10) (by decide) k
  rw [Nat.cast_ofNat] at split
  push_cast
  rw [split, scale]
  ring

/-- Inside of an interval are the places on a grid that round to its double. -/
theorem inside_iff (positive : 0 < x.significand) :
    x.inside k n = true ↔ RoundsTo (n * 10 ^ k) x := by
  have scale_pos := x.scale_pos k
  have place := x.scaled_place k n
  have low : ((x.roundingInterval.low * 10 ^ (-k).toNat : ℕ) : ℚ) =
      (x.significand - x.gapBelow) * 2 ^ x.exponent * x.scale k := by
    push_cast
    rw [interval_low positive, scale, mul_assoc, mul_assoc]
  have high : ((x.roundingInterval.high * 10 ^ (-k).toNat : ℕ) : ℚ) =
      (x.significand + 1 / 2) * 2 ^ x.exponent * x.scale k := by
    push_cast
    rw [interval_high, scale, mul_assoc, mul_assoc]
  have closed : x.roundingInterval.closed = (x.significand % 2 == 0) := rfl
  rw [inside, RoundingInterval.contains]
  simp only [closed, beq_iff_eq]
  split
  case isTrue even =>
    rw [Bool.and_eq_true, decide_eq_true_eq, decide_eq_true_eq, ← @Nat.cast_le ℚ,
      ← @Nat.cast_le ℚ, low, high, place, mul_le_mul_iff_left₀ scale_pos,
      mul_le_mul_iff_left₀ scale_pos]
    exact ⟨fun h => ⟨h.1, h.2, by omega⟩, fun h => ⟨h.low, h.high⟩⟩
  case isFalse odd =>
    rw [Bool.and_eq_true, decide_eq_true_eq, decide_eq_true_eq, ← @Nat.cast_lt ℚ,
      ← @Nat.cast_lt ℚ, low, high, place, mul_lt_mul_iff_left₀ scale_pos,
      mul_lt_mul_iff_left₀ scale_pos]
    exact ⟨fun h => ⟨h.1.le, h.2.le, fun _ => h⟩, fun h => h.odd (by omega)⟩

/-- The place on a grid that is next below a double. -/
def lowerPlace (x : Binary64) (k : ℤ) : ℕ :=
  x.roundingInterval.value * 10 ^ (-k).toNat / (10 ^ k.toNat * x.roundingInterval.den)

/-- What is found on a grid is one of the two places next to the double. -/
theorem onGrid?_cases (x : Binary64) (k : ℤ) :
    onGrid? x.roundingInterval k = some ⟨x.lowerPlace k, k⟩ ∧ x.inside k (x.lowerPlace k) = true ∧
        x.lowerPlace k ≠ 0 ∨
      onGrid? x.roundingInterval k = some ⟨x.lowerPlace k + 1, k⟩ ∧
        x.inside k (x.lowerPlace k + 1) = true ∨
      onGrid? x.roundingInterval k = none ∧
        (x.inside k (x.lowerPlace k) = true → x.lowerPlace k = 0) ∧
        x.inside k (x.lowerPlace k + 1) = false := by
  simp only [onGrid?, Nat.pow_eq]
  rw [← lowerPlace, ← inside, ← inside]
  generalize x.lowerPlace k = lower
  split
  case h_1 below above =>
    simp only [Bool.and_eq_true, bne_iff_ne] at below
    split
    · exact .inl ⟨rfl, below⟩
    · exact .inr (.inl ⟨rfl, above⟩)
  case h_2 below above =>
    simp only [Bool.and_eq_true, bne_iff_ne] at below
    exact .inl ⟨rfl, below⟩
  case h_3 below above => exact .inr (.inl ⟨rfl, above⟩)
  case h_4 below above =>
    refine .inr (.inr ⟨rfl, fun found => ?_, above⟩)
    simpa [found] using below

/-- What is found on a grid rounds to the double. -/
theorem roundsTo_of_onGrid? (positive : 0 < x.significand) {d : Decimal}
    (h : onGrid? x.roundingInterval k = some d) : d.digits ≠ 0 ∧ RoundsTo d.value x := by
  obtain ⟨found, within, nonzero⟩ | ⟨found, within⟩ | ⟨missed, -⟩ := x.onGrid?_cases k
  · obtain rfl := Option.some.inj (found.symm.trans h)
    exact ⟨nonzero, (inside_iff positive).mp within⟩
  · obtain rfl := Option.some.inj (found.symm.trans h)
    exact ⟨Nat.succ_ne_zero _, (inside_iff positive).mp within⟩
  · simp [missed] at h

/-- A double lies between two neighbouring places of a grid. -/
theorem lowerPlace_bounds (x : Binary64) (k : ℤ) :
    (x.lowerPlace k : ℚ) * 10 ^ k ≤ x.magnitude ∧
      x.magnitude < ((x.lowerPlace k + 1 : ℕ) : ℚ) * 10 ^ k := by
  have value : ((x.roundingInterval.value * 10 ^ (-k).toNat : ℕ) : ℚ) =
      x.magnitude * x.scale k := by
    push_cast
    rw [interval_value, scale, magnitude, mul_assoc, mul_assoc]
  have unit_pos : 0 < 10 ^ k.toNat * x.roundingInterval.den :=
    Nat.mul_pos (by positivity) x.interval_den_pos
  rw [← mul_le_mul_iff_left₀ (x.scale_pos k), ← mul_lt_mul_iff_left₀ (x.scale_pos k),
    ← value, ← scaled_place, ← scaled_place, Nat.cast_le, Nat.cast_lt]
  exact ⟨Nat.div_mul_le_self _ _, Nat.lt_mul_of_div_lt (Nat.lt_succ_self _) unit_pos⟩

/-- An interval is wide enough for seventeen digits, also below a power of two. -/
theorem significand_lt_width (hx : x.Canonical) :
    (x.significand : ℚ) < (x.gapBelow + 1 / 2) * 10 ^ 16 := by
  rw [gapBelow]
  split
  case isTrue least =>
    rw [least.1]
    norm_num
  case isFalse =>
    have fits : (x.significand : ℚ) < 2 ^ 53 := by exact_mod_cast hx.significand_lt
    exact fits.trans (by norm_num)

/-- Seventeen digits suffice: the places of a grid that is this fine are closer to each other than
the bounds of an interval. -/
theorem exists_onGrid? (hx : x.Canonical) (positive : 0 < x.significand)
    (fine : (10 : ℚ) ^ (k + 16) ≤ x.magnitude) : ∃ d, onGrid? x.roundingInterval k = some d := by
  obtain ⟨found, -⟩ | ⟨found, -⟩ | ⟨-, missedBelow, missedAbove⟩ := x.onGrid?_cases k
  · exact ⟨_, found⟩
  · exact ⟨_, found⟩
  exfalso
  obtain ⟨below, above⟩ := x.lowerPlace_bounds k
  have grid_pos : (0 : ℚ) < 10 ^ k := by positivity
  have unit_pos : (0 : ℚ) < 2 ^ x.exponent := by positivity
  have finer : (10 : ℚ) ^ k * 10 ^ 16 ≤ x.magnitude := by
    rwa [← zpow_natCast, ← zpow_add₀ (by norm_num)]
  have half_pos : (0 : ℚ) < 1 / 2 * 2 ^ x.exponent := by positivity
  have gap_pos : 0 < x.gapBelow * 2 ^ x.exponent := by
    have : 0 < x.gapBelow := by
      rw [gapBelow]
      split <;> norm_num
    positivity
  have nonzero : x.lowerPlace k ≠ 0 := by
    intro zero
    rw [zero] at above
    push_cast at above
    linarith
  have outsideBelow : (x.lowerPlace k : ℚ) * 10 ^ k ≤
      (x.significand - x.gapBelow) * 2 ^ x.exponent := by
    by_contra within
    rw [not_le] at within
    have upper : (x.lowerPlace k : ℚ) * 10 ^ k < (x.significand + 1 / 2) * 2 ^ x.exponent := by
      rw [magnitude] at below
      linarith
    exact nonzero (missedBelow ((inside_iff positive).mpr
      ⟨within.le, upper.le, fun _ => ⟨within, upper⟩⟩))
  have outsideAbove : ((x.significand : ℚ) + 1 / 2) * 2 ^ x.exponent ≤
      ((x.lowerPlace k + 1 : ℕ) : ℚ) * 10 ^ k := by
    by_contra within
    rw [not_le] at within
    have lower : ((x.significand : ℚ) - x.gapBelow) * 2 ^ x.exponent <
        ((x.lowerPlace k + 1 : ℕ) : ℚ) * 10 ^ k := by
      rw [magnitude] at above
      linarith
    have found := (inside_iff positive).mpr ⟨lower.le, within.le, fun _ => ⟨lower, within⟩⟩
    exact Bool.false_ne_true (missedAbove.symm.trans found)
  have width : (x.gapBelow + 1 / 2) * 2 ^ x.exponent ≤ 10 ^ k := by
    push_cast at outsideAbove
    linarith
  have tooWide := mul_lt_mul_of_pos_right (significand_lt_width hx) unit_pos
  rw [magnitude] at finer
  linarith

end Grid

section Search

variable {x : Binary64}

/-- Between which powers of ten a number is, by the count of its digits. -/
theorem exists_digit_count {n : ℕ} (positive : 0 < n) :
    ∃ m, (Nat.toDigits 10 n).length = m + 1 ∧ 10 ^ m ≤ n ∧ n < 10 ^ (m + 1) := by
  obtain ⟨m, count⟩ : ∃ m, (Nat.toDigits 10 n).length = m + 1 :=
    Nat.exists_eq_add_one_of_ne_zero (by simp [Nat.toDigits_ne_nil])
  refine ⟨m, count, ?_, (Nat.length_toDigits_le_iff (by decide) (by omega)).mp count.le⟩
  cases m with
  | zero => exact (pow_zero 10).le.trans positive
  | succ m =>
    by_contra less
    have short := (Nat.length_toDigits_le_iff (by decide) (by omega)).mpr (not_le.mp less)
    omega

/-- The exponent is that of a power of ten which is not above the quotient. -/
theorem floorLog10_le {num den : ℕ} (num_pos : 0 < num) (den_pos : 0 < den) :
    (10 : ℚ) ^ floorLog10 num den * den ≤ num := by
  obtain ⟨m, numCount, numBounds⟩ := exists_digit_count num_pos
  obtain ⟨n, denCount, denBounds⟩ := exists_digit_count den_pos
  obtain ⟨low, -⟩ := quotient_bounds (b := 10) (by decide) numBounds.1 numBounds.2 denBounds.1
    denBounds.2
  rw [floorLog10, numCount, denCount]
  have guess : ((m + 1 : ℕ) : ℤ) - (n + 1 : ℕ) = m - n := by omega
  simp only [guess, Nat.pow_eq]
  split
  case isTrue reached => exact (mul_pow_toNat_le (by decide) _).mp reached
  case isFalse => exact low

theorem Decimal.value_trimZeros (steps : ℕ) (d : Decimal) :
    (d.trimZeros steps).value = d.value := by
  induction steps generalizing d with
  | zero => rfl
  | succ steps ih =>
    rw [trimZeros]
    split
    case isTrue zero =>
      rw [ih, value, value, zpow_add_one₀ (by norm_num)]
      have whole : ((d.digits / 10 : ℕ) : ℚ) * 10 = d.digits := by
        exact_mod_cast Nat.div_mul_cancel (Nat.dvd_of_mod_eq_zero zero)
      rw [← whole]
      ring
    case isFalse => rfl

/-- The shortest decimal of a positive double rounds to it, and is not zero. -/
theorem roundsTo_shortest (hx : x.Canonical) (positive : 0 < x.significand) :
    0 < x.shortest.value ∧ RoundsTo x.shortest.value x := by
  have nonzero : x.isZero = false := by simpa [isZero] using positive.ne'
  have den_pos : (0 : ℚ) < x.ratio.2 := by exact_mod_cast x.ratio_den_pos
  have top := floorLog10_le (ratio_num_pos nonzero) x.ratio_den_pos
  rw [← le_div_iff₀ den_pos, ← magnitude_eq_ratio] at top
  obtain ⟨d, found⟩ : ∃ d, (List.range 17).findSome? (fun n : ℕ =>
      onGrid? x.roundingInterval (floorLog10 x.ratio.1 x.ratio.2 - n)) = some d := by
    rw [← Option.isSome_iff_exists, List.findSome?_isSome_iff]
    refine ⟨16, by decide, Option.isSome_iff_exists.mpr (exists_onGrid? hx positive ?_)⟩
    simpa using top
  have shortest_eq : x.shortest.value = d.value := by
    simp only [shortest, found, Decimal.value_trimZeros]
  obtain ⟨n, -, hit⟩ := List.exists_of_findSome?_eq_some found
  obtain ⟨digits, rounds⟩ := roundsTo_of_onGrid? positive hit
  rw [shortest_eq]
  have digits_pos : (0 : ℚ) < d.digits := by exact_mod_cast Nat.pos_of_ne_zero digits
  refine ⟨?_, rounds⟩
  rw [Decimal.value]
  positivity

/-- Different doubles have different shortest decimals. -/
theorem shortest_injective {y : Binary64} (hx : x.Canonical) (hy : y.Canonical)
    (left : 0 < x.significand) (right : 0 < y.significand)
    (same : x.shortest.value = y.shortest.value) :
    x.significand = y.significand ∧ x.exponent = y.exponent :=
  roundsTo_unique hx hy (roundsTo_shortest hx left).2 (same ▸ (roundsTo_shortest hy right).2)

end Search

end SignedAdmission.Binary64
