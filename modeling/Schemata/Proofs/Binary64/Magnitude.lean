import Schemata.Power

/-!
# Sizes of powers

Powers of two and of ten are told apart by their exponents: three powers of ten stay below ten of
two, and twenty-eight of ten above ninety-three of two.
-/

namespace Schemata

theorem twoTo_pos (exponent : Nat) : 0 < twoTo exponent :=
  Nat.two_pow_pos exponent

theorem twoTo_le {first second : Nat} (grows : first ≤ second) : twoTo first ≤ twoTo second :=
  Nat.pow_le_pow_right (by decide) grows

theorem tenTo_pos (exponent : Nat) : 0 < tenTo exponent :=
  Nat.pow_pos (by decide)

theorem twoTo_mul {first second sum : Nat} (total : first + second = sum) :
    twoTo first * twoTo second = twoTo sum :=
  total ▸ (Nat.pow_add 2 first second).symm

theorem tenTo_lt_twoTo {ten two : Nat} (below : 10 * ten < 3 * two) : tenTo ten < twoTo two := by
  have cubes : (10 ^ ten) ^ 3 < (2 ^ two) ^ 3 := calc
    (10 ^ ten) ^ 3 = (10 ^ 3) ^ ten := by rw [← Nat.pow_mul, ← Nat.pow_mul, Nat.mul_comm]
    _ ≤ (2 ^ 10) ^ ten := Nat.pow_le_pow_left (by decide) ten
    _ = 2 ^ (10 * ten) := (Nat.pow_mul ..).symm
    _ < 2 ^ (3 * two) := Nat.pow_lt_pow_right (by decide) below
    _ = (2 ^ two) ^ 3 := by rw [← Nat.pow_mul, Nat.mul_comm]
  exact (Nat.pow_lt_pow_iff_left (by decide)).mp cubes

theorem twoTo_lt_tenTo {two ten : Nat} (below : 28 * two < 93 * ten) : twoTo two < tenTo ten := by
  have powers : (2 ^ two) ^ 93 < (10 ^ ten) ^ 93 := calc
    (2 ^ two) ^ 93 = (2 ^ 93) ^ two := by rw [← Nat.pow_mul, ← Nat.pow_mul, Nat.mul_comm]
    _ ≤ (10 ^ 28) ^ two := Nat.pow_le_pow_left (by decide) two
    _ = 10 ^ (28 * two) := (Nat.pow_mul ..).symm
    _ < 10 ^ (93 * ten) := Nat.pow_lt_pow_right (by decide) below
    _ = (10 ^ ten) ^ 93 := by rw [← Nat.pow_mul, Nat.mul_comm]
  exact (Nat.pow_lt_pow_iff_left (by decide)).mp powers

end Schemata
