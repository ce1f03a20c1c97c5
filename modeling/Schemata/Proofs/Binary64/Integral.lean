import Schemata.Proofs.Binary64.Nearest
import Schemata.Proofs.Binary64.Rounding
import Mathlib.Algebra.Order.Field.Rat
import Mathlib.Data.Rat.Cast.Order
import Mathlib.Tactic.NormNum

/-!
# Integral doubles

The value of a double as a rational number, and the doubles whose value is an integer.  From
`2 ^ 63` on all of them are multiples of 2048, and an integer from there on rounds to one.
-/

namespace Schemata.Binary64

def unitsOfOne : Nat :=
  twoTo 1074

/-- A finite number in units of the least positive number.  What is no finite number has none. -/
def scaled : Binary64 → Int
  | .finite negative mantissa exponent _ => units negative mantissa exponent
  | .nan | .infinite _ => 0

/-- The value of a finite number. -/
def toRat (double : Binary64) : Rat :=
  double.scaled / unitsOfOne

theorem unitsOfOne_pos : 0 < unitsOfOne := by
  unfold unitsOfOne
  exact twoTo_pos 1074

theorem twoTo_add_unitsOfOne {exponent sum : Nat} (total : exponent + 1074 = sum) :
    twoTo exponent * unitsOfOne = twoTo sum := by
  unfold unitsOfOne
  exact twoTo_mul total

variable {double : Binary64} {integer : Int}

section

theorem unitsOfOne_cast_pos : (0 : Rat) < unitsOfOne :=
  Nat.cast_pos.mpr unitsOfOne_pos

theorem toRat_eq_iff : double.toRat = integer ↔ double.scaled = integer * unitsOfOne := by
  rw [toRat, div_eq_iff unitsOfOne_cast_pos.ne']
  norm_cast

theorem le_toRat_iff : (integer : Rat) ≤ double.toRat ↔ integer * unitsOfOne ≤ double.scaled := by
  rw [toRat, le_div_iff₀ unitsOfOne_cast_pos]
  norm_cast

theorem toRat_le_iff : double.toRat ≤ integer ↔ double.scaled ≤ integer * unitsOfOne := by
  rw [toRat, div_le_iff₀ unitsOfOne_cast_pos]
  norm_cast

end

/-- A signed magnitude is an integer number of units when the magnitude is a multiple of one. -/
theorem some_quotient_iff {magnitude unit : Nat} (positive : 0 < unit) (negative : Bool) :
    (if magnitude % unit = 0 then
        some (if negative then -((magnitude / unit : Nat) : Int) else (magnitude / unit : Nat))
      else none) = some integer ↔
      (if negative then -(magnitude : Int) else magnitude) = integer * unit := by
  have some_unit : (unit : Int) ≠ 0 := by omega
  by_cases whole : magnitude % unit = 0
  · obtain ⟨quotient, rfl⟩ := Nat.dvd_of_mod_eq_zero whole
    rw [if_pos whole, Nat.mul_div_cancel_left _ positive, Option.some.injEq, Nat.mul_comm,
      Nat.cast_mul]
    cases negative with
    | false =>
        simp only [Bool.false_eq_true, if_false]
        exact (Int.mul_eq_mul_right_iff some_unit).symm
    | true =>
        simp only [if_true]
        rw [← Int.neg_mul]
        exact (Int.mul_eq_mul_right_iff some_unit).symm
  · rw [if_neg whole]
    refine iff_of_false nofun fun same => whole ?_
    have divides : (unit : Int) ∣ magnitude := by
      cases negative with
      | false => exact ⟨integer, same.trans (Int.mul_comm ..)⟩
      | true => exact ⟨-integer, by rw [Int.mul_neg, Int.mul_comm, ← same]; simp⟩
    exact Nat.mod_eq_zero_of_dvd (Int.natCast_dvd_natCast.mp divides)

theorem toInt?_eq_some_iff (finite : double.isFinite = true) :
    double.toInt? = some integer ↔ double.toRat = integer := by
  rw [toRat_eq_iff]
  cases double with
  | nan | infinite => cases finite
  | finite negative mantissa exponent canonical =>
      unfold unitsOfOne
      exact some_quotient_iff (twoTo_pos 1074) negative

/-- From `2 ^ 63` on a mantissa counts multiples of 2048. -/
theorem exists_multiple_of_large {mantissa exponent : Nat} (narrow : mantissa < twoTo 53)
    (large : twoTo 63 * unitsOfOne ≤ mantissa * twoTo exponent) :
    ∃ quotient, mantissa * twoTo exponent = quotient * 2048 * unitsOfOne := by
  have least : twoTo 63 * unitsOfOne = twoTo 1137 := twoTo_add_unitsOfOne rfl
  have finest : twoTo 53 * twoTo 1084 = twoTo 1137 := twoTo_mul rfl
  have coarse : 1085 ≤ exponent := by
    by_contra fine
    have small : mantissa * twoTo exponent < twoTo 53 * twoTo 1084 :=
      Nat.mul_lt_mul_of_lt_of_le narrow (twoTo_le (by omega)) (twoTo_pos _)
    rw [finest, ← least] at small
    exact absurd small (Nat.not_lt.mpr large)
  obtain ⟨finer, rfl⟩ := Nat.exists_eq_add_of_le' coarse
  have eleven : twoTo 11 * unitsOfOne = twoTo 1085 := twoTo_add_unitsOfOne rfl
  have split : twoTo finer * twoTo 1085 = twoTo (finer + 1085) := twoTo_mul rfl
  refine ⟨mantissa * twoTo finer, ?_⟩
  change _ = mantissa * twoTo finer * twoTo 11 * unitsOfOne
  rw [← split, ← eleven, Nat.mul_assoc, Nat.mul_assoc]

/-- There is no double between `2 ^ 63` and the next multiple of 2048. -/
theorem toRat_eq_of_close (low : ((9223372036854775808 : Int) : Rat) ≤ double.toRat)
    (high : double.toRat ≤ ((9223372036854776832 : Int) : Rat)) :
    double.toRat = (9223372036854775808 : Int) := by
  rw [le_toRat_iff] at low
  rw [toRat_le_iff] at high
  rw [toRat_eq_iff]
  have positive : (0 : Int) < unitsOfOne := Int.natCast_pos.mpr unitsOfOne_pos
  cases double with
  | nan | infinite =>
      change _ ≤ (0 : Int) at low
      omega
  | finite negative mantissa exponent canonical =>
      cases negative with
      | true =>
          change _ ≤ -((mantissa * twoTo exponent : Nat) : Int) at low
          omega
      | false =>
          change _ ≤ ((mantissa * twoTo exponent : Nat) : Int) at low
          change ((mantissa * twoTo exponent : Nat) : Int) ≤ _ at high
          change ((mantissa * twoTo exponent : Nat) : Int) = _
          have large : twoTo 63 * unitsOfOne ≤ mantissa * twoTo exponent := by
            rw [show twoTo 63 = 9223372036854775808 from rfl]
            omega
          obtain ⟨quotient, same⟩ := exists_multiple_of_large canonical.1 large
          rw [same, Int.natCast_mul] at low high ⊢
          have low := Int.le_of_mul_le_mul_right low positive
          have high := Int.le_of_mul_le_mul_right high positive
          rw [show ((quotient * 2048 : Nat) : Int) = 9223372036854775808 by omega]

/-! ## Rounding integers -/

theorem roundHalfEven_mul {numerator denominator factor : Nat} (positive : 0 < factor) :
    roundHalfEven (numerator * factor) (denominator * factor) =
      roundHalfEven numerator denominator := by
  unfold roundHalfEven
  simp only [Nat.mul_div_mul_right _ _ positive, Nat.mul_mod_mul_right, ← Nat.mul_assoc,
    Nat.mul_lt_mul_right positive]

theorem toRat_ofParts {mantissa exponent whole : Nat} (canonical : IsCanonical mantissa exponent)
    (same : mantissa * twoTo exponent = whole * unitsOfOne) :
    (ofParts false mantissa exponent).toRat = (whole : Int) := by
  rw [toRat_eq_iff, ofParts_of_canonical false canonical]
  change ((mantissa * twoTo exponent : Nat) : Int) = (whole : Int) * (unitsOfOne : Int)
  rw [same, Int.natCast_mul]

theorem twoTo_1085 : twoTo 1085 = 2048 * unitsOfOne := by
  have eleven : twoTo 11 * unitsOfOne = twoTo 1085 := twoTo_add_unitsOfOne rfl
  rw [← eleven, show twoTo 11 = 2048 from rfl]

/-- Rounding on a grid of 2048 units. -/
theorem rounded_on_grid {whole unit grid : Nat} (positive : 0 < unit) (same : grid = 2048 * unit)
    (large : twoTo 63 ≤ whole) (fits : whole < twoTo 64) :
    roundHalfEven (whole * unit) (1 * grid) = roundHalfEven whole 2048 ∧
      whole * unit < twoTo 53 * (1 * grid) ∧ twoTo 52 * (1 * grid) ≤ whole * unit := by
  rw [Nat.one_mul, same, ← Nat.mul_assoc, ← Nat.mul_assoc]
  exact ⟨roundHalfEven_mul positive, Nat.mul_lt_mul_of_pos_right fits positive,
    Nat.mul_le_mul_right unit large⟩

theorem bounds_of_roundHalfEven {whole : Nat} (large : twoTo 63 ≤ whole) (fits : whole < twoTo 64) :
    twoTo 52 ≤ roundHalfEven whole 2048 ∧ roundHalfEven whole 2048 ≤ twoTo 53 := by
  change 9223372036854775808 ≤ whole at large
  change whole < 18446744073709551616 at fits
  change 4503599627370496 ≤ _ ∧ _ ≤ 9007199254740992
  rcases roundHalfEven_eq whole 2048 with down | up <;> omega

/-- The half-way point behind `2 ^ 63` still rounds to it. -/
theorem roundHalfEven_eq_limit_iff {whole : Nat} (large : twoTo 63 ≤ whole) :
    roundHalfEven whole 2048 = twoTo 52 ↔ whole ≤ twoTo 63 + 1024 := by
  change 9223372036854775808 ≤ whole at large
  change _ = 4503599627370496 ↔ whole ≤ 9223372036854776832
  unfold roundHalfEven
  dsimp only
  split
  · omega
  · split
    · omega
    · split <;> omega

/-- An integer behind a signed word rounds to a multiple of 2048. -/
theorem toRat_ofInt_of_large {whole : Nat} (large : twoTo 63 ≤ whole) (fits : whole < twoTo 64) :
    (ofInt whole).toRat = ((roundHalfEven whole 2048 * 2048 : Nat) : Int) := by
  obtain ⟨rounded, below, above⟩ := rounded_on_grid unitsOfOne_pos twoTo_1085 large fits
  unfold unitsOfOne at rounded below above
  have parts : ofInt whole = _ := ofRatio_of_bounds false Nat.one_pos below (.inr above) rounded
  have bounds := bounds_of_roundHalfEven large fits
  rw [parts]
  generalize roundHalfEven whole 2048 = mantissa at bounds
  split
  next carried =>
    have last : twoTo 52 * twoTo (1085 + 1) = twoTo 1138 := twoTo_mul rfl
    have last' : twoTo 64 * unitsOfOne = twoTo 1138 := twoTo_add_unitsOfOne rfl
    have same : twoTo 52 * twoTo (1085 + 1) = mantissa * 2048 * unitsOfOne := by
      rw [last, carried, show twoTo 53 * 2048 = twoTo 64 from rfl, last']
    exact toRat_ofParts (by decide) same
  next inside =>
    have same : mantissa * twoTo 1085 = mantissa * 2048 * unitsOfOne := by
      rw [twoTo_1085, Nat.mul_assoc]
    exact toRat_ofParts ⟨Nat.lt_of_le_of_ne bounds.2 inside, .inr bounds.1, by decide⟩ same

end Schemata.Binary64
