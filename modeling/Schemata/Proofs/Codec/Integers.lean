import Schemata.Proofs.Binary64.Integral
import Schemata.Proofs.Codec.Dispatch

/-!
# Coerced integers

A codec that coerces primitives takes a number as an integer when its value is one of a signed word,
whichever way the number is written.  Just behind the greatest word it goes astray: all numbers from
`2 ^ 63` to `2 ^ 63 + 1024` have `2 ^ 63` as their double, and become the greatest word.
-/

namespace Schemata

def Json.Number.toRat : Number → Rat
  | .integer value _ => value
  | .float value _ => value.toRat

/-- Behind the greatest word, but so close to it that the double nearest to the number is
`2 ^ 63`. -/
def Json.Number.RoundsToLimit (number : Number) : Prop :=
  2 ^ 63 ≤ number.toRat ∧ number.toRat ≤ 2 ^ 63 + 1024

theorem Json.Number.roundsToLimit_iff {number : Number} :
    number.RoundsToLimit ↔ ((9223372036854775808 : Int) : Rat) ≤ number.toRat ∧
      number.toRat ≤ ((9223372036854776832 : Int) : Rat) := by
  unfold RoundsToLimit
  norm_num

namespace Coercion

open Json

variable {number : Number} {word : Int64}

theorem toInt?_of_toInt64? (own : number.toInt64? = some word) :
    toInt? (.number number) = some word := by
  simp only [toInt?, own]

theorem toInt?_of_toInt64?_eq_none (none : number.toInt64? = none) :
    toInt? (.number number) = number.toBinary64.toInt?.bind clampedInt64? := by
  simp only [toInt?, none]

/-- Clamping changes the first integer behind the words, and no other. -/
theorem clampedInt64?_eq_some_iff {integer : Int} :
    clampedInt64? integer = some word ↔
      word.toInt = integer ∨ integer = 9223372036854775808 ∧ word = Int64.maxValue := by
  have low := Int64.le_toInt word
  have high := Int64.toInt_lt word
  unfold clampedInt64?
  split
  next inside =>
    rcases eq_or_ne integer 9223372036854775808 with rfl | apart
    · rw [show min 9223372036854775808 9223372036854775807 = (9223372036854775807 : Int) from rfl,
        Option.some.injEq]
      constructor
      · rintro rfl
        exact .inr ⟨rfl, rfl⟩
      · rintro (same | ⟨-, rfl⟩)
        · omega
        · rfl
    · rw [min_eq_left (by omega), Option.some.injEq, ← Int64.toInt_inj,
        Int64.toInt_ofInt_of_le (by omega) (by omega)]
      constructor
      · exact fun same => .inl same.symm
      · rintro (same | ⟨same, -⟩)
        · exact same.symm
        · exact absurd same apart
  next outside =>
    refine iff_of_false nofun ?_
    rintro (same | ⟨same, -⟩) <;> omega

theorem toInt?_float_iff {double : Binary64} {finite : double.isFinite = true} :
    toInt? (.number (.float double finite)) = some word ↔
      (word.toInt : Rat) = double.toRat ∨
        double.toRat = (9223372036854775808 : Int) ∧ word = Int64.maxValue := by
  rw [toInt?_of_toInt64?_eq_none rfl]
  simp only [Number.toBinary64, Option.bind_eq_some_iff, clampedInt64?_eq_some_iff,
    Binary64.toInt?_eq_some_iff finite]
  constructor
  · rintro ⟨integer, same, rfl | ⟨rfl, limit⟩⟩
    · exact .inl same.symm
    · exact .inr ⟨same, limit⟩
  · rintro (same | ⟨same, limit⟩)
    · exact ⟨word.toInt, same.symm, .inl rfl⟩
    · exact ⟨9223372036854775808, same, .inr ⟨rfl, limit⟩⟩

variable {integer : Int} {fits : FitsWord integer}

theorem toInt?_of_small (small : integer ≤ 9223372036854775807) :
    toInt? (.number (.integer integer fits)) = some word ↔ word.toInt = integer := by
  have own : Number.toInt64? (.integer integer fits) = some (Int64.ofInt integer) := if_pos small
  rw [toInt?_of_toInt64? own, Option.some.injEq, ← Int64.toInt_inj,
    Int64.toInt_ofInt_of_le fits.1 (by omega), eq_comm]

/-- Behind the greatest word an integer becomes that word if it rounds to `2 ^ 63`, and none
otherwise. -/
theorem toInt?_of_large (large : 9223372036854775808 ≤ integer) :
    toInt? (.number (.integer integer fits)) = some word ↔
      integer ≤ 9223372036854776832 ∧ word = Int64.maxValue := by
  obtain ⟨whole, rfl⟩ := Int.eq_ofNat_of_zero_le (show 0 ≤ integer by omega)
  have reaches : twoTo 63 ≤ whole := Int.ofNat_le.mp large
  have inside : whole < twoTo 64 := by
    change whole < 18446744073709551616
    have := fits.2
    omega
  have taken := (Binary64.toInt?_eq_some_iff (Binary64.isFinite_ofInt fits)).mpr
    (Binary64.toRat_ofInt_of_large reaches inside)
  have least := (Binary64.bounds_of_roundHalfEven reaches inside).1
  have limit := Binary64.roundHalfEven_eq_limit_iff reaches
  have none : Number.toInt64? (.integer whole fits) = none := if_neg (by omega)
  rw [toInt?_of_toInt64?_eq_none none, Number.toBinary64, taken, Option.bind_some,
    clampedInt64?_eq_some_iff]
  change 4503599627370496 ≤ _ at least
  change _ = 4503599627370496 ↔ whole ≤ 9223372036854776832 at limit
  have high := Int64.toInt_lt word
  constructor
  · rintro (same | ⟨same, rfl⟩)
    · omega
    · exact ⟨by omega, rfl⟩
  · rintro ⟨close, rfl⟩
    exact .inr ⟨by omega, rfl⟩

/-- A number becomes the word of its value, or the greatest word in place of `2 ^ 63`. -/
theorem toInt?_number_iff :
    toInt? (.number number) = some word ↔
      (word.toInt : Rat) = number.toRat ∨ number.RoundsToLimit ∧ word = Int64.maxValue := by
  rw [Number.roundsToLimit_iff]
  cases number with
  | float double finite =>
      rw [toInt?_float_iff, Number.toRat]
      constructor
      · rintro (same | ⟨same, limit⟩)
        · exact .inl same
        · rw [same]
          exact .inr ⟨⟨le_rfl, Int.cast_le.mpr (by decide)⟩, limit⟩
      · rintro (same | ⟨⟨low, high⟩, limit⟩)
        · exact .inl same
        · exact .inr ⟨Binary64.toRat_eq_of_close low high, limit⟩
  | integer integer fits =>
      have low := Int64.toInt_lt word
      rw [Number.toRat, Int.cast_inj, Int.cast_le, Int.cast_le]
      by_cases small : integer ≤ 9223372036854775807
      · rw [toInt?_of_small small]
        constructor
        · exact .inl
        · rintro (same | ⟨⟨large, -⟩, -⟩)
          · exact same
          · omega
      · rw [toInt?_of_large (by omega)]
        constructor
        · rintro ⟨close, limit⟩
          exact .inr ⟨⟨by omega, close⟩, limit⟩
        · rintro (same | ⟨⟨-, close⟩, limit⟩)
          · omega
          · exact ⟨close, limit⟩

end Coercion

namespace Codec

variable {codec : Codec} {number : Json.Number}

/-- A built-in type takes one level, and what it takes is a matter of the data alone. -/
theorem decode_builtIn_eq_ok_iff {kind : BuiltIn} {wire : Json} {value : Value} :
    codec.decode (.builtIn kind) wire = .ok value ↔
      0 < codec.options.maxDepth ∧ codec.primitive? kind wire = some value := by
  rw [decode_eq_ok_iff]
  cases codec.options.maxDepth with
  | zero => exact iff_of_false not_decodes_zero fun both => absurd both.1 (Nat.lt_irrefl 0)
  | succ levels =>
      exact decodes_builtIn_iff.trans (and_iff_right (Nat.succ_pos levels)).symm

theorem primitive?_int_number (coerces : codec.options.coercePrimitives = true) :
    codec.primitive? .int (.number number) = (Coercion.toInt? (.number number)).map .int := by
  unfold primitive? ownPrimitive? coercedPrimitive?
  cases own : number.toInt64? with
  | some word => simp [own, Coercion.toInt?_of_toInt64? own]
  | none => simp [own, coerces]

/-- A codec that coerces takes a number as the word of its value, and what rounds to `2 ^ 63` as the
greatest word.  So the word has the value of the number exactly when that does not round to
`2 ^ 63`. -/
theorem decode_int_of_number (coerces : codec.options.coercePrimitives = true)
    (number : Json.Number) :
    (∀ value, codec.decode (.builtIn .int) (.number number) = .ok value ↔
      0 < codec.options.maxDepth ∧ ∃ word : Int64, value = .int word ∧
        ((word.toInt : Rat) = number.toRat ∨
          number.RoundsToLimit ∧ word = Int64.maxValue)) ∧
    (0 < codec.options.maxDepth →
      ((∀ word, codec.decode (.builtIn .int) (.number number) = .ok (.int word) →
        (word.toInt : Rat) = number.toRat) ↔ ¬ number.RoundsToLimit)) := by
  have taken (value : Value) : codec.decode (.builtIn .int) (.number number) = .ok value ↔
      0 < codec.options.maxDepth ∧ ∃ word : Int64, value = .int word ∧
        ((word.toInt : Rat) = number.toRat ∨
          number.RoundsToLimit ∧ word = Int64.maxValue) := by
    rw [decode_builtIn_eq_ok_iff, primitive?_int_number coerces, Option.map_eq_some_iff]
    refine and_congr_right fun _ => exists_congr fun word => ?_
    rw [Coercion.toInt?_number_iff, and_comm, eq_comm]
  refine ⟨taken, fun deep => ?_⟩
  simp only [taken, deep, true_and, Value.int.injEq, exists_eq_left']
  constructor
  · intro exactly close
    have same := exactly Int64.maxValue (.inr ⟨close, rfl⟩)
    have low := (Json.Number.roundsToLimit_iff.mp close).1
    rw [← same, Int.cast_le] at low
    exact absurd low (by decide)
  · rintro far word (same | ⟨close, -⟩)
    · exact same
    · exact absurd close far

/-- The least word, written as a double. -/
def leastWord : Json.Number :=
  .float (Binary64.ofInt (-9223372036854775808)) (Binary64.isFinite_ofInt (by decide))

theorem toRat_leastWord : leastWord.toRat = ((-9223372036854775808 : Int) : Rat) := by
  have finite := Binary64.isFinite_ofInt (by decide : Json.FitsWord (-9223372036854775808))
  exact (Binary64.toInt?_eq_some_iff finite).mp (by decide +kernel)

theorem decode_int_of_leastWord :
    ({ types := {}, options := { coercePrimitives := true } } : Codec).decode (.builtIn .int)
      (.number leastWord) = .ok (.int Int64.minValue) := by
  have taken := (@decode_int_of_number
    { types := {}, options := { coercePrimitives := true } } rfl leastWord).1
  exact (taken _).mpr ⟨by decide, _, rfl, .inl toRat_leastWord.symm⟩

/-- The first integer behind the words becomes the greatest word. -/
theorem limit_becomes_greatest_word :
    ({ types := {}, options := { coercePrimitives := true } } : Codec).decode (.builtIn .int)
        (.number (.integer 9223372036854775808 (by decide))) = .ok (.int 9223372036854775807) ∧
      Json.Number.toRat (.integer 9223372036854775808 (by decide)) ≠
        ((9223372036854775807 : Int64).toInt : Rat) := by
  refine ⟨decode_builtIn_eq_ok_iff.mpr ⟨by decide, ?_⟩, ?_⟩
  · rw [primitive?_int_number rfl, (Coercion.toInt?_of_large (by decide)).mpr ⟨by decide, rfl⟩]
    rfl
  · rw [Json.Number.toRat, ne_eq, Int.cast_inj]
    decide

end Codec

end Schemata
