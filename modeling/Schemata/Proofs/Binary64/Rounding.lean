import Schemata.Json.Basic

/-!
# Rounded numbers

A ratio that stays below the greatest finite double rounds to a finite double.  Every integer of a
JSON text does.
-/

namespace Schemata.Binary64

theorem roundHalfEven_eq (numerator denominator : Nat) :
    roundHalfEven numerator denominator = numerator / denominator ∨
      roundHalfEven numerator denominator = numerator / denominator + 1 := by
  unfold roundHalfEven
  dsimp only
  split
  · exact Or.inl rfl
  split
  · exact Or.inr rfl
  split
  · exact Or.inl rfl
  · exact Or.inr rfl

theorem isFinite_ofParts {mantissa exponent : Nat} (negative : Bool)
    (canonical : IsCanonical mantissa exponent) :
    (ofParts negative mantissa exponent).isFinite = true := by
  rw [ofParts, dif_pos canonical]
  rfl

/-- Scaled by its exponent, a number has 53 bits, unless the exponent is the least one. -/
theorem scaled_bounds (whole : Nat) :
    whole / twoTo (whole.log2 - 52) < twoTo 53 ∧
      (whole.log2 - 52 = 0 ∨ twoTo 52 ≤ whole / twoTo (whole.log2 - 52)) := by
  have positive (exponent : Nat) : 0 < twoTo exponent := Nat.two_pow_pos exponent
  have below : whole < twoTo (whole.log2 + 1) := Nat.lt_log2_self
  rcases Nat.le_total whole.log2 52 with narrow | wide
  · rw [Nat.sub_eq_zero_of_le narrow]
    refine ⟨?_, Or.inl rfl⟩
    have grows : twoTo (whole.log2 + 1) ≤ twoTo 53 :=
      Nat.pow_le_pow_right (by decide) (Nat.succ_le_succ narrow)
    exact Nat.lt_of_le_of_lt (Nat.div_le_self _ _) (Nat.lt_of_lt_of_le below grows)
  · have split (bits : Nat) :
        twoTo bits * twoTo (whole.log2 - 52) = twoTo (whole.log2 - 52 + bits) := by
      change 2 ^ bits * 2 ^ (whole.log2 - 52) = 2 ^ (whole.log2 - 52 + bits)
      rw [← Nat.pow_add, Nat.add_comm]
    constructor
    · rw [Nat.div_lt_iff_lt_mul (positive _), split]
      rwa [show whole.log2 - 52 + 53 = whole.log2 + 1 by omega]
    · right
      rw [Nat.le_div_iff_mul_le (positive _), split, Nat.sub_add_cancel wide]
      refine Nat.log2_self_le ?_
      rintro rfl
      exact absurd wide (by decide)

/-- A ratio that stays two bits below the greatest exponent rounds to a finite double. -/
theorem isFinite_ofRatio {numerator denominator : Nat} (negative : Bool)
    (bounded : (numerator * twoTo 1074 / denominator).log2 ≤ 2096) :
    (ofRatio negative numerator denominator).isFinite = true := by
  obtain ⟨above, below⟩ := scaled_bounds (numerator * twoTo 1074 / denominator)
  unfold ofRatio
  dsimp only
  generalize whole : numerator * twoTo 1074 / denominator = quotient at *
  have rounded := roundHalfEven_eq (numerator * twoTo 1074)
    (denominator * twoTo (quotient.log2 - 52))
  rw [← Nat.div_div_eq_div_mul, whole] at rounded
  generalize roundHalfEven _ _ = mantissa at *
  generalize exact : quotient / twoTo (quotient.log2 - 52) = scaled at *
  split
  · refine isFinite_ofParts negative ⟨by decide, Or.inr (Nat.le_refl _), ?_⟩
    omega
  next differs =>
    refine isFinite_ofParts negative ⟨?_, ?_, ?_⟩
    · omega
    · rcases below with least | wide
      · exact Or.inl least
      · right
        omega
    · omega

/-- Scaling by a power of two adds its exponent to the width. -/
theorem log2_mul_twoTo_lt {whole width : Nat} (bounded : whole < twoTo width) (exponent : Nat)
    (some : 0 < width) : (whole * twoTo exponent).log2 < width + exponent := by
  have scaled : whole * twoTo exponent < twoTo (width + exponent) := by
    change whole * 2 ^ exponent < 2 ^ (width + exponent)
    rw [Nat.pow_add]
    exact Nat.mul_lt_mul_of_pos_right bounded (Nat.two_pow_pos exponent)
  rcases Nat.eq_zero_or_pos (whole * twoTo exponent) with none | positive
  · rw [none, Nat.log2_zero]
    omega
  · exact (Nat.log2_lt (Nat.ne_of_gt positive)).mpr scaled

/-- The integers of JSON texts are far from the bound. -/
theorem isFinite_ofInt {value : Int} (fits : Json.FitsWord value) :
    (ofInt value).isFinite = true := by
  obtain ⟨low, high⟩ := fits
  have bounded : value.natAbs < twoTo 64 := by
    have width : twoTo 64 = 18446744073709551616 := by decide
    omega
  have narrow := log2_mul_twoTo_lt bounded 1074 (by decide)
  refine isFinite_ofRatio _ ?_
  rw [Nat.div_one]
  omega

def one : Binary64 :=
  .finite false 4503599627370496 1022 (by decide)

theorem ofInt_one : ofInt 1 = one := by decide +kernel

end Schemata.Binary64

namespace Schemata.Json.Number

/-- The double nearest to a JSON number is finite. -/
theorem isFinite_toBinary64 (number : Number) : number.toBinary64.isFinite = true := by
  cases number with
  | integer value fits => exact Binary64.isFinite_ofInt fits
  | float value finite => exact finite

end Schemata.Json.Number
