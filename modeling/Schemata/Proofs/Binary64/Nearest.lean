import Schemata.Binary64.Reader
import Schemata.Binary64.Shortest
import Schemata.Proofs.Binary64.Magnitude

/-!
# Ratios next to a double

A ratio in the neighbourhood of a positive double rounds to that double.  So does a decimal, however
its digits and its power of ten are chosen.
-/

namespace Schemata.Binary64

/-! ## Neighbourhoods -/

namespace Neighbourhood

variable {near : Neighbourhood} {numerator denominator : Nat}

theorem holds_eq_true_iff :
    near.holds numerator denominator = true ↔
      near.low * denominator ≤ numerator ∧ numerator ≤ near.high * denominator ∧
        (near.closed = false → near.low * denominator ≠ numerator ∧
          numerator ≠ near.high * denominator) := by
  unfold holds
  cases near.closed with
  | true => simp
  | false =>
      simp only [Bool.false_eq_true, if_false, Bool.and_eq_true, decide_eq_true_eq, true_imp_iff]
      omega

/-- Whether a ratio is held does not depend on how it is written. -/
theorem holds_mul {factor : Nat} (positive : 0 < factor) :
    near.holds (numerator * factor) (denominator * factor) =
      near.holds numerator denominator := by
  rw [Bool.eq_iff_iff, holds_eq_true_iff, holds_eq_true_iff, ← Nat.mul_assoc, ← Nat.mul_assoc]
  simp only [Nat.mul_le_mul_right_iff positive, ne_eq, Nat.mul_left_inj (Nat.ne_of_gt positive)]

theorem holds_congr {numerator' denominator' : Nat} (positive : 0 < denominator)
    (positive' : 0 < denominator') (same : numerator * denominator' = numerator' * denominator) :
    near.holds numerator denominator = near.holds numerator' denominator' := calc
  near.holds numerator denominator
    = near.holds (numerator * denominator') (denominator * denominator') :=
        (holds_mul positive').symm
  _ = near.holds (numerator' * denominator) (denominator' * denominator) := by
        rw [same, Nat.mul_comm denominator]
  _ = near.holds numerator' denominator' := holds_mul positive

end Neighbourhood

/-! ## Rounding -/

/-- A quotient is rounded to the integer that it is at most a half away from, or less than a half if
that integer is odd. -/
theorem roundHalfEven_of_near {nearest numerator denominator : Nat} (positive : 0 < denominator)
    (low : 2 * (nearest * denominator) ≤ 2 * numerator + denominator)
    (high : 2 * numerator ≤ 2 * (nearest * denominator) + denominator)
    (inside : nearest % 2 = 1 → 2 * (nearest * denominator) < 2 * numerator + denominator ∧
      2 * numerator < 2 * (nearest * denominator) + denominator) :
    roundHalfEven numerator denominator = nearest := by
  have parts : denominator * (numerator / denominator) + numerator % denominator = numerator :=
    Nat.div_add_mod numerator denominator
  have rest : numerator % denominator < denominator := Nat.mod_lt _ positive
  have atMost : numerator / denominator < nearest + 1 := by
    rw [Nat.div_lt_iff_lt_mul positive, Nat.add_mul, Nat.one_mul]
    omega
  have atLeast : nearest ≤ numerator / denominator + 1 := by
    rw [← Nat.add_div_right _ positive, Nat.le_div_iff_mul_le positive]
    omega
  unfold roundHalfEven
  dsimp only
  rw [Nat.mul_comm denominator] at parts
  generalize numerator / denominator = quotient at *
  generalize numerator % denominator = remainder at *
  have neighbour : nearest = quotient ∨ nearest = quotient + 1 := by omega
  rcases neighbour with rfl | rfl
  · split
    · rfl
    · split
      · omega
      · split
        · rfl
        · omega
  · rw [Nat.add_mul, Nat.one_mul] at low high inside
    split
    · omega
    · split
      · rfl
      · split
        · omega
        · rfl

section

variable {mantissa exponent scaled denominator : Nat}

/-- The exponent of a ratio is that of the mantissas it lies between. -/
theorem exponent_of_bounds (positive : 0 < denominator)
    (below : scaled < twoTo 53 * (denominator * twoTo exponent))
    (above : exponent = 0 ∨ twoTo 52 * (denominator * twoTo exponent) ≤ scaled) :
    (scaled / denominator).log2 - 52 = exponent := by
  have split (bits : Nat) : twoTo bits * (denominator * twoTo exponent) =
      2 ^ (bits + exponent) * denominator := by
    change 2 ^ bits * (denominator * 2 ^ exponent) = _
    rw [Nat.pow_add, Nat.mul_comm denominator, Nat.mul_assoc]
  rw [split, ← Nat.div_lt_iff_lt_mul positive] at below
  rcases above with rfl | above
  · have narrow : (scaled / denominator).log2 < 53 := by
      rcases Nat.eq_zero_or_pos (scaled / denominator) with zero | some_quotient
      · rw [zero, Nat.log2_zero]
        decide
      · exact (Nat.log2_lt (Nat.ne_of_gt some_quotient)).mpr below
    omega
  · rw [split, ← Nat.le_div_iff_mul_le positive] at above
    have some_quotient : scaled / denominator ≠ 0 :=
      Nat.ne_of_gt (Nat.lt_of_lt_of_le (twoTo_pos _) above)
    have wide := (Nat.le_log2 some_quotient).mpr above
    have narrow := (Nat.log2_lt some_quotient).mpr below
    omega

/-- The bounds of a neighbourhood, on the grid of the mantissas. -/
theorem bounds_of_holds (some_mantissa : 0 < mantissa)
    (held : (neighbourhood mantissa exponent).holds (4 * scaled) denominator = true) :
    let grid := denominator * twoTo exponent
    let below := if mantissa = twoTo 52 ∧ 0 < exponent then 1 else 2
    4 * (mantissa * grid) ≤ 4 * scaled + below * grid ∧
      4 * scaled ≤ 4 * (mantissa * grid) + 2 * grid ∧
      (mantissa % 2 = 1 → 4 * (mantissa * grid) < 4 * scaled + below * grid ∧
        4 * scaled < 4 * (mantissa * grid) + 2 * grid) := by
  intro grid below
  have spread (factor : Nat) : factor * twoTo exponent * denominator = factor * grid := by
    rw [Nat.mul_assoc, Nat.mul_comm (twoTo exponent)]
  have low : (neighbourhood mantissa exponent).low * denominator =
      4 * (mantissa * grid) - below * grid := by
    change (4 * mantissa * twoTo exponent - below * twoTo exponent) * denominator = _
    rw [Nat.sub_mul, spread, spread, Nat.mul_assoc]
  have high : (neighbourhood mantissa exponent).high * denominator =
      4 * (mantissa * grid) + 2 * grid := by
    change (4 * mantissa * twoTo exponent + 2 * twoTo exponent) * denominator = _
    rw [Nat.add_mul, spread, spread, Nat.mul_assoc]
  have narrow : below * grid ≤ 4 * (mantissa * grid) := by
    have atMost : below ≤ 4 * mantissa := by
      simp only [below]
      split <;> omega
    rw [← Nat.mul_assoc 4]
    exact Nat.mul_le_mul_right grid atMost
  have parity : (neighbourhood mantissa exponent).closed = decide (mantissa % 2 = 0) := rfl
  rw [Neighbourhood.holds_eq_true_iff, low, high, parity] at held
  simp only [decide_eq_false_iff_not] at held
  omega

end

section

variable {mantissa exponent numerator denominator : Nat} (negative : Bool)

theorem ofParts_of_canonical (canonical : IsCanonical mantissa exponent) :
    ofParts negative mantissa exponent = .finite negative mantissa exponent canonical :=
  dif_pos canonical

/-- A ratio rounds on the grid of the mantissas it lies between. -/
theorem ofRatio_of_bounds (positive : 0 < denominator)
    (below : numerator * twoTo 1074 < twoTo 53 * (denominator * twoTo exponent))
    (above : exponent = 0 ∨ twoTo 52 * (denominator * twoTo exponent) ≤ numerator * twoTo 1074)
    (rounded : roundHalfEven (numerator * twoTo 1074) (denominator * twoTo exponent) = mantissa) :
    ofRatio negative numerator denominator =
      if mantissa = twoTo 53 then ofParts negative (twoTo 52) (exponent + 1)
      else ofParts negative mantissa exponent := by
  unfold ofRatio
  simp only [exponent_of_bounds positive below above, rounded]

/-- Just below a power of two, a ratio rounds up to it from the next smaller exponent. -/
theorem ofRatio_of_below_power (positive : 0 < denominator)
    (below : numerator * twoTo 1074 < twoTo 52 * (denominator * twoTo (exponent + 1)))
    (low : 4 * (twoTo 52 * (denominator * twoTo (exponent + 1))) ≤
      4 * (numerator * twoTo 1074) + denominator * twoTo (exponent + 1)) :
    ofRatio negative numerator denominator = ofParts negative (twoTo 52) (exponent + 1) := by
  have double : denominator * twoTo (exponent + 1) = 2 * (denominator * twoTo exponent) := by
    change denominator * 2 ^ (exponent + 1) = 2 * (denominator * 2 ^ exponent)
    rw [Nat.pow_succ, ← Nat.mul_assoc, Nat.mul_comm]
  have halves : twoTo 53 * (denominator * twoTo exponent) =
      2 * (twoTo 52 * (denominator * twoTo exponent)) := Nat.mul_assoc 2 (twoTo 52) _
  have some_grid : 0 < denominator * twoTo exponent :=
    Nat.mul_pos positive (twoTo_pos exponent)
  have wide : denominator * twoTo exponent ≤ twoTo 52 * (denominator * twoTo exponent) :=
    Nat.le_mul_of_pos_left _ (by decide)
  rw [double, Nat.mul_left_comm (twoTo 52)] at below low
  have rounded : roundHalfEven (numerator * twoTo 1074) (denominator * twoTo exponent) =
      twoTo 53 := by
    refine roundHalfEven_of_near some_grid ?_ ?_ fun odd => absurd odd (by decide)
    · omega
    · omega
  rw [ofRatio_of_bounds negative positive (by omega) (.inr (by omega)) rounded, if_pos rfl]

/-- A ratio in the neighbourhood of a positive double rounds to it. -/
theorem ofRatio_of_holds (canonical : IsCanonical mantissa exponent) (some_mantissa : 0 < mantissa)
    (positive : 0 < denominator)
    (held : (neighbourhood mantissa exponent).holds (4 * (numerator * twoTo 1074)) denominator =
      true) :
    ofRatio negative numerator denominator = .finite negative mantissa exponent canonical := by
  obtain ⟨low, high, inside⟩ := bounds_of_holds some_mantissa held
  rw [← ofParts_of_canonical negative canonical]
  obtain ⟨narrow, normal, _⟩ := canonical
  have some_grid : 0 < denominator * twoTo exponent :=
    Nat.mul_pos positive (twoTo_pos exponent)
  have roof : (mantissa + 1) * (denominator * twoTo exponent) ≤
      twoTo 53 * (denominator * twoTo exponent) := Nat.mul_le_mul_right _ narrow
  rw [Nat.add_mul, Nat.one_mul] at roof
  by_cases power : mantissa = twoTo 52 ∧ 0 < exponent
  · obtain ⟨rfl, some_exponent⟩ := power
    rw [if_pos ⟨rfl, some_exponent⟩, Nat.one_mul] at low
    rcases Nat.lt_or_ge (numerator * twoTo 1074) (twoTo 52 * (denominator * twoTo exponent)) with
      below | above
    · cases exponent with
      | zero => exact absurd some_exponent (Nat.lt_irrefl 0)
      | succ smaller => exact ofRatio_of_below_power negative positive below low
    · have rounded : roundHalfEven (numerator * twoTo 1074) (denominator * twoTo exponent) =
          twoTo 52 := by
        refine roundHalfEven_of_near some_grid ?_ ?_ fun odd => absurd odd (by decide)
        · omega
        · omega
      rw [ofRatio_of_bounds negative positive (by omega) (.inr above) rounded,
        if_neg (by decide)]
  · rw [if_neg power] at low inside
    have rounded : roundHalfEven (numerator * twoTo 1074) (denominator * twoTo exponent) =
        mantissa := by
      refine roundHalfEven_of_near some_grid ?_ ?_ fun odd => ?_
      · omega
      · omega
      · have strict := inside odd
        omega
    have above : exponent = 0 ∨
        twoTo 52 * (denominator * twoTo exponent) ≤ numerator * twoTo 1074 := by
      rcases Nat.eq_zero_or_pos exponent with least | some_exponent
      · exact .inl least
      · have past : twoTo 52 + 1 ≤ mantissa := by omega
        have floor : (twoTo 52 + 1) * (denominator * twoTo exponent) ≤
            mantissa * (denominator * twoTo exponent) := Nat.mul_le_mul_right _ past
        rw [Nat.add_mul, Nat.one_mul] at floor
        exact .inr (by omega)
    rw [ofRatio_of_bounds negative positive (by omega) above rounded, if_neg (by omega)]

end

/-! ## Decimals -/

namespace Neighbourhood

def Contains (near : Neighbourhood) (digits : Nat) (scale : Int) : Prop :=
  near.holds (4 * (digits * tenTo scale.toNat * twoTo 1074)) (tenTo (-scale).toNat) = true

/-- Zeros behind the digits stand for a greater power of ten. -/
theorem contains_shift {near : Neighbourhood} {digits : Nat} {scale : Int} (places : Nat) :
    near.Contains (digits * tenTo places) (scale - places) ↔ near.Contains digits scale := by
  have powers : tenTo places * tenTo (scale - places).toNat * tenTo (-scale).toNat =
      tenTo scale.toNat * tenTo (-(scale - places)).toNat := by
    change 10 ^ _ * 10 ^ _ * 10 ^ _ = 10 ^ _ * 10 ^ _
    rw [← Nat.pow_add, ← Nat.pow_add, ← Nat.pow_add]
    congr 1
    omega
  unfold Contains
  rw [holds_congr (tenTo_pos _) (tenTo_pos _)]
  generalize twoTo 1074 = unit
  calc
    4 * (digits * tenTo places * tenTo (scale - places).toNat * unit) *
        tenTo (-scale).toNat
      = 4 * (digits * (tenTo places * tenTo (scale - places).toNat * tenTo (-scale).toNat) *
          unit) := by ac_rfl
    _ = 4 * (digits * tenTo scale.toNat * unit) * tenTo (-(scale - places)).toNat := by
        rw [powers]
        ac_rfl

end Neighbourhood

section

variable {mantissa exponent digits : Nat} {scale : Int}

/-- A decimal next to a double is at least half of the least double. -/
theorem grid_le_of_contains (some_mantissa : 0 < mantissa)
    (contained : (neighbourhood mantissa exponent).Contains digits scale) :
    tenTo (-scale).toNat * twoTo exponent ≤ 2 * (digits * tenTo scale.toNat * twoTo 1074) := by
  obtain ⟨low, _, _⟩ := bounds_of_holds some_mantissa contained
  have floor : tenTo (-scale).toNat * twoTo exponent ≤
      mantissa * (tenTo (-scale).toNat * twoTo exponent) := Nat.le_mul_of_pos_left _ some_mantissa
  split at low <;> omega

theorem digits_pos_of_contains (some_mantissa : 0 < mantissa)
    (contained : (neighbourhood mantissa exponent).Contains digits scale) : 0 < digits := by
  have reach := grid_le_of_contains some_mantissa contained
  have some_grid : 0 < tenTo (-scale).toNat * twoTo exponent :=
    Nat.mul_pos (tenTo_pos _) (twoTo_pos exponent)
  rcases Nat.eq_zero_or_pos digits with rfl | some_digits
  · rw [Nat.zero_mul, Nat.zero_mul] at reach
    omega
  · exact some_digits

/-- A decimal next to a double is below every power of ten that exceeds the format. -/
theorem scale_le_of_contains (canonical : IsCanonical mantissa exponent)
    (some_mantissa : 0 < mantissa)
    (contained : (neighbourhood mantissa exponent).Contains digits scale) : scale ≤ 310 := by
  refine Int.not_lt.mp fun large => ?_
  obtain ⟨_, high, _⟩ := bounds_of_holds some_mantissa contained
  have roof : (mantissa + 1) * (tenTo (-scale).toNat * twoTo exponent) ≤
      twoTo 1024 * twoTo 1074 := calc
    (mantissa + 1) * (tenTo (-scale).toNat * twoTo exponent)
      = (mantissa + 1) * twoTo exponent := by
          rw [show (-scale).toNat = 0 by omega, show tenTo 0 = 1 from rfl, Nat.one_mul]
    _ ≤ twoTo 53 * twoTo 2045 := Nat.mul_le_mul canonical.1 (twoTo_le canonical.2.2)
    _ = twoTo (53 + 2045) := twoTo_mul rfl
    _ = twoTo 1024 * twoTo 1074 := (twoTo_mul (by decide)).symm
  have some_grid : 0 < tenTo (-scale).toNat * twoTo exponent :=
    Nat.mul_pos (tenTo_pos _) (twoTo_pos exponent)
  have below : digits * tenTo scale.toNat < twoTo 1024 := by
    rw [Nat.add_mul, Nat.one_mul] at roof
    refine Nat.lt_of_mul_lt_mul_right (a := twoTo 1074) ?_
    omega
  have grows : tenTo scale.toNat ≤ digits * tenTo scale.toNat :=
    Nat.le_mul_of_pos_left _ (digits_pos_of_contains some_mantissa contained)
  have above : twoTo 1024 < tenTo scale.toNat := twoTo_lt_tenTo (by omega)
  exact Nat.lt_irrefl _ (Nat.lt_trans above (Nat.lt_of_le_of_lt grows below))

/-- A decimal next to a double has no more places than its digits make up for. -/
theorem places_le_of_contains (some_mantissa : 0 < mantissa)
    (contained : (neighbourhood mantissa exponent).Contains digits scale) :
    (-scale).toNat ≤ digits.log2 / 3 + 340 := by
  refine Nat.not_lt.mp fun small => ?_
  have reach := grid_le_of_contains some_mantissa contained
  rw [show scale.toNat = 0 by omega, show tenTo 0 = 1 from rfl, Nat.mul_one] at reach
  have above : twoTo (digits.log2 + 1076) < tenTo (-scale).toNat := twoTo_lt_tenTo (by omega)
  have below : tenTo (-scale).toNat ≤ twoTo (digits.log2 + 1076) := calc
    tenTo (-scale).toNat ≤ tenTo (-scale).toNat * twoTo exponent :=
        Nat.le_mul_of_pos_right _ (twoTo_pos exponent)
    _ ≤ 2 * (digits * twoTo 1074) := reach
    _ ≤ twoTo 1 * (twoTo (digits.log2 + 1) * twoTo 1074) :=
        Nat.mul_le_mul_left 2 (Nat.mul_le_mul_right _ (Nat.le_of_lt Nat.lt_log2_self))
    _ = twoTo (digits.log2 + 1076) := by
        rw [twoTo_mul rfl]
        exact twoTo_mul (by omega)
  exact Nat.lt_irrefl _ (Nat.lt_of_lt_of_le above below)

/-- A decimal next to a positive double is read as the double. -/
theorem ofDecimal_of_contains (negative : Bool) (canonical : IsCanonical mantissa exponent)
    (some_mantissa : 0 < mantissa)
    (contained : (neighbourhood mantissa exponent).Contains digits scale) :
    ofDecimal negative digits scale = .finite negative mantissa exponent canonical := by
  have some_digits := digits_pos_of_contains some_mantissa contained
  have notLarge := scale_le_of_contains canonical some_mantissa contained
  have notSmall := places_le_of_contains some_mantissa contained
  have rounded := ofRatio_of_holds negative canonical some_mantissa
    (tenTo_pos _) contained
  rw [ofDecimal, if_neg (Nat.ne_of_gt some_digits), if_neg (by omega)]
  split
  next whole =>
    rw [← rounded, show (-scale).toNat = 0 by omega]
  next fraction =>
    rw [if_neg (by omega), ← rounded, show scale.toNat = 0 by omega]
    exact congrArg (ofRatio negative · _) (Nat.mul_one digits).symm

end

end Schemata.Binary64
