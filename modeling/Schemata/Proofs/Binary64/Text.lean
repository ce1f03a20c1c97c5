import Schemata.Binary64.Layout
import Schemata.Proofs.Binary64.Shortest
import Schemata.Proofs.Text.Decimal

/-!
# Texts of doubles

The text of a finite double is read as the double, in every layout.  The shortest decimal is next to
the double, and however its digits are laid out, the decimal that is read has the same value.
-/

namespace Schemata.Binary64

open Text Text.Decimal

/-! ## Reading decimals -/

namespace Decimal

/-- A decimal is worth some digits at a power of ten: it may have more zeros behind the digits. -/
def IsWorth (decimal : Decimal) (digits : Nat) (scale : Int) : Prop :=
  ∃ places : Nat, value decimal.digits = digits * tenTo places ∧ decimal.scale = scale - places

end Decimal

def signText (negative : Bool) : List Char :=
  if negative then ['-'] else []

section

variable (negative : Bool) {text whole fraction tail : List Char} {exponent : Int}

theorem splitSign_signed {text : List Char} (unsigned : ∀ char ∈ text.head?, char.isDigit = true) :
    splitSign (signText negative ++ text) = (negative, text) := by
  cases negative with
  | true => rfl
  | false =>
      refine splitSign_of_head fun char first => ?_
      have digit := unsigned char first
      constructor <;> rintro rfl <;> exact absurd digit (by decide)

theorem head_isDigit (some_digits : whole ≠ []) (digits : ∀ char ∈ whole, char.isDigit = true)
    (rest : List Char) : ∀ char ∈ (whole ++ rest).head?, char.isDigit = true := by
  cases whole with
  | nil => exact absurd rfl some_digits
  | cons first more =>
      rintro _ ⟨⟩
      exact digits first List.mem_cons_self

variable {negative}

/-- Behind a sign, digits on one side of a point or on both, and an exponent. -/
theorem decimal?_of_point (signed : splitSign text = (negative, whole ++ '.' :: (fraction ++ tail)))
    (some_digits : whole ≠ [] ∨ fraction ≠ []) (digits : ∀ char ∈ whole, char.isDigit = true)
    (digits' : ∀ char ∈ fraction, char.isDigit = true)
    (ends : ∀ char ∈ tail.head?, char.isDigit = false) (read : exponent? tail = some exponent) :
    decimal? text = some ⟨negative, whole ++ fraction, exponent - fraction.length⟩ := by
  simp only [← isDigit_eq] at digits digits' ends
  have point : ∀ char ∈ ('.' :: (fraction ++ tail)).head?, Character.isDigit char = false := by
    rintro _ ⟨⟩
    decide
  have some_parts : (whole.isEmpty && fraction.isEmpty) = false := by
    simpa only [Bool.and_eq_false_iff, List.isEmpty_eq_false_iff] using some_digits
  unfold decimal?
  simp only [signed, takeWhile_append_of_head digits point, dropWhile_append_of_head digits point,
    takeWhile_append_of_head digits' ends, dropWhile_append_of_head digits' ends, read, some_parts]
  rfl

/-- Behind a sign, digits without a point, and an exponent. -/
theorem decimal?_of_digits (signed : splitSign text = (negative, whole ++ tail))
    (some_digits : whole ≠ []) (digits : ∀ char ∈ whole, char.isDigit = true)
    (ends : ∀ char ∈ tail.head?, char.isDigit = false ∧ char ≠ '.')
    (read : exponent? tail = some exponent) :
    decimal? text = some ⟨negative, whole, exponent⟩ := by
  simp only [← isDigit_eq] at digits ends
  have behind : ∀ char ∈ tail.head?, Character.isDigit char = false :=
    fun char first => (ends char first).1
  have noPoint : ∀ more, tail ≠ '.' :: more := by
    rintro more rfl
    exact (ends '.' rfl).2 rfl
  unfold decimal?
  simp only [signed, takeWhile_append_of_head digits behind,
    dropWhile_append_of_head digits behind, List.isEmpty_eq_false_iff.mpr some_digits,
    Bool.false_and, Bool.false_eq_true, if_false]
  rw [read, List.append_nil]
  exact congrArg some (congrArg (Decimal.mk negative whole) (Int.sub_zero exponent))

variable (negative)

/-- Digits with a point among them and an exponent behind them. -/
theorem decimal?_pointed (some_digits : whole ≠ [])
    (digits : ∀ char ∈ whole, char.isDigit = true)
    (digits' : ∀ char ∈ fraction, char.isDigit = true)
    (ends : ∀ char ∈ tail.head?, char.isDigit = false) (read : exponent? tail = some exponent) :
    decimal? (signText negative ++ (whole ++ '.' :: (fraction ++ tail))) =
      some ⟨negative, whole ++ fraction, exponent - fraction.length⟩ := by
  have unsigned := head_isDigit some_digits digits ('.' :: (fraction ++ tail))
  exact decimal?_of_point (splitSign_signed negative unsigned) (.inl some_digits) digits digits'
    ends read

/-- Digits with a point among them. -/
theorem decimal?_fraction (some_digits : whole ≠ [])
    (digits : ∀ char ∈ whole, char.isDigit = true)
    (digits' : ∀ char ∈ fraction, char.isDigit = true) :
    decimal? (signText negative ++ (whole ++ '.' :: fraction)) =
      some ⟨negative, whole ++ fraction, 0 - fraction.length⟩ := by
  have nothing : ∀ char ∈ ([] : List Char).head?, char.isDigit = false := fun _ absurd =>
    nomatch absurd
  have read := decimal?_pointed negative some_digits digits digits' nothing rfl
  rwa [List.append_nil] at read

/-- Digits with an exponent behind them. -/
theorem decimal?_whole (some_digits : whole ≠ [])
    (digits : ∀ char ∈ whole, char.isDigit = true)
    (ends : ∀ char ∈ tail.head?, char.isDigit = false ∧ char ≠ '.')
    (read : exponent? tail = some exponent) :
    decimal? (signText negative ++ (whole ++ tail)) =
      some ⟨negative, whole, exponent⟩ := by
  have unsigned := head_isDigit some_digits digits tail
  exact decimal?_of_digits (splitSign_signed negative unsigned) some_digits digits ends read

end

/-! ## Layouts -/

namespace Layout

variable (negative : Bool) {digits : List Char}

theorem isDigit_of_mem_zeros (places : Nat) :
    ∀ char ∈ List.replicate places '0', char.isDigit = true := by
  intro char among
  rw [List.eq_of_mem_replicate among]
  decide

/-- A point in front of the digits, behind which zeros stand. -/
theorem positional_of_before {point : Int} (before : point ≤ 0) :
    positional digits point = ['0'] ++ '.' :: (List.replicate (-point).toNat '0' ++ digits) := by
  rw [positional, if_pos before]
  rfl

/-- A point among the digits. -/
theorem positional_of_inside {point : Int} (behind : 0 < point)
    (inside : point.toNat < digits.length) :
    positional digits point = digits.take point.toNat ++ '.' :: digits.drop point.toNat := by
  have reached : (digits.take point.toNat).length = point.toNat :=
    List.length_take_of_le (Nat.le_of_lt inside)
  have fraction : (digits.drop point.toNat).isEmpty = false := by
    rw [List.isEmpty_eq_false_iff, ne_eq, List.drop_eq_nil_iff]
    omega
  rw [positional, if_neg (by omega)]
  dsimp only
  rw [reached, fraction, Nat.sub_self, List.replicate_zero, List.append_nil]
  rfl

/-- A point behind the digits, up to which zeros stand. -/
theorem positional_of_past {point : Int} (behind : 0 < point)
    (past : digits.length ≤ point.toNat) :
    positional digits point =
      (digits ++ List.replicate (point.toNat - digits.length) '0') ++ '.' :: ['0'] := by
  rw [positional, if_neg (by omega)]
  dsimp only
  rw [List.take_of_length_le past, List.drop_of_length_le past]
  rfl

/-- Digits in positional notation are worth themselves with the point at its place. -/
theorem decimal?_positional (some_digits : digits ≠ [])
    (each : ∀ char ∈ digits, char.isDigit = true) (point : Int) :
    ∃ decimal, decimal? (signText negative ++ positional digits point) =
        some decimal ∧ decimal.negative = negative ∧
      decimal.IsWorth (value digits) (point - digits.length) := by
  have zero : ∀ char ∈ ['0'], char.isDigit = true := isDigit_of_mem_zeros 1
  rcases Int.lt_or_le 0 point with behind | before
  · rcases Nat.lt_or_ge point.toNat digits.length with inside | past
    · have whole : digits.take point.toNat ≠ [] := by
        rw [ne_eq, List.take_eq_nil_iff, not_or]
        exact ⟨by omega, some_digits⟩
      rw [positional_of_inside behind inside]
      refine ⟨_, decimal?_fraction negative whole
        (fun char among => each char (List.mem_of_mem_take among))
        (fun char among => each char (List.mem_of_mem_drop among)), rfl, 0, ?_, ?_⟩
      · rw [List.take_append_drop]
        exact (Nat.mul_one _).symm
      · rw [List.length_drop]
        dsimp only
        omega
    · have places : ∀ char ∈ digits ++ List.replicate (point.toNat - digits.length) '0',
          char.isDigit = true := List.forall_mem_append.mpr ⟨each, isDigit_of_mem_zeros _⟩
      rw [positional_of_past behind past]
      refine ⟨_, decimal?_fraction negative (List.append_ne_nil_of_left_ne_nil some_digits _) places
        zero, rfl, point.toNat - digits.length + 1, ?_, ?_⟩
      · have zeros := value_zeros (point.toNat - digits.length + 1)
        rw [List.replicate_succ'] at zeros
        rw [List.append_assoc, value_append, zeros, List.length_append, List.length_replicate]
        rfl
      · change (0 : Int) - 1 = _
        omega
  · have places : ∀ char ∈ List.replicate (-point).toNat '0' ++ digits, char.isDigit = true :=
      List.forall_mem_append.mpr ⟨isDigit_of_mem_zeros _, each⟩
    rw [positional_of_before before]
    refine ⟨_, decimal?_fraction negative (List.cons_ne_nil _ _) zero places, rfl, 0, ?_, ?_⟩
    · have zeros := value_zeros ((-point).toNat + 1)
      rw [List.replicate_succ, ← List.singleton_append] at zeros
      rw [← List.append_assoc, value_append, zeros, Nat.zero_mul, Nat.zero_add]
      exact (Nat.mul_one _).symm
    · rw [List.length_append, List.length_replicate]
      dsimp only
      omega

def exponentText (layout : Layout) (exponent : Int) : List Char :=
  'e' :: ((if layout.plusExponent ∧ 0 ≤ exponent then ['+'] else []) ++ Text.Decimal.ofInt exponent)

theorem exponent?_exponentText (layout : Layout) (exponent : Int) :
    exponent? (layout.exponentText exponent) = some exponent := by
  rw [exponentText, exponent?, if_pos (.inl rfl)]
  split
  next plus => exact integer?_plus_ofInt plus.2
  next => exact integer?_ofInt exponent

theorem head_exponentText (layout : Layout) (exponent : Int) :
    ∀ char ∈ (layout.exponentText exponent).head?, char.isDigit = false ∧ char ≠ '.' := by
  rintro _ ⟨⟩
  decide

/-- Digits in scientific notation are worth themselves with the point behind the first. -/
theorem decimal?_scientific (layout : Layout) (some_digits : digits ≠ [])
    (each : ∀ char ∈ digits, char.isDigit = true) (exponent : Int) :
    ∃ decimal, decimal? (signText negative ++ layout.scientific digits exponent) =
        some decimal ∧ decimal.negative = negative ∧
      decimal.IsWorth (value digits) (exponent + 1 - digits.length) := by
  have read := layout.exponent?_exponentText exponent
  have ends := layout.head_exponentText exponent
  cases digits with
  | nil => exact absurd rfl some_digits
  | cons first rest =>
      obtain ⟨digit, others⟩ := List.forall_mem_cons.mp each
      have single : ∀ char ∈ [first], char.isDigit = true := List.forall_mem_singleton.mpr digit
      cases rest with
      | nil =>
          have laid : layout.scientific [first] exponent =
              [first] ++ layout.exponentText exponent := by
            simp [scientific, exponentText]
          rw [laid]
          refine ⟨_, decimal?_whole negative (List.cons_ne_nil _ _) single ends read, rfl,
            0, ?_, ?_⟩
          · exact (Nat.mul_one _).symm
          · simp only [List.length_cons, List.length_nil]
            omega
      | cons second rest =>
          have laid : layout.scientific (first :: second :: rest) exponent =
              [first] ++ '.' :: ((second :: rest) ++ layout.exponentText exponent) := by
            simp [scientific, exponentText]
          rw [laid]
          refine ⟨_, decimal?_pointed negative (List.cons_ne_nil _ _) single others
            (fun char head => (ends char head).1) read, rfl, 0, ?_, ?_⟩
          · exact (Nat.mul_one _).symm
          · simp only [List.length_cons]
            omega

/-- The text of a positive double is worth its shortest decimal. -/
theorem decimal?_magnitude (layout : Layout) (mantissa exponent : Nat) :
    ∃ decimal, decimal? (signText negative ++
        layout.magnitude mantissa exponent) = some decimal ∧ decimal.negative = negative ∧
      decimal.IsWorth (shortest layout.tie mantissa exponent).1
        (shortest layout.tie mantissa exponent).2 := by
  unfold magnitude
  dsimp only
  generalize shortest layout.tie mantissa exponent = found
  have some_digits := ofNat_ne_nil found.1
  have each : ∀ char ∈ ofNat found.1, char.isDigit = true := fun _ among =>
    isDigit_of_mem_ofNat among
  split
  · obtain ⟨decimal, read, sign, worth⟩ := decimal?_positional negative some_digits each
      (found.2 + (ofNat found.1).length - 1 + 1)
    refine ⟨decimal, read, sign, ?_⟩
    rwa [value_ofNat, Int.sub_add_cancel, Int.add_sub_cancel] at worth
  · obtain ⟨decimal, read, sign, worth⟩ := layout.decimal?_scientific negative some_digits each
      (found.2 + (ofNat found.1).length - 1)
    refine ⟨decimal, read, sign, ?_⟩
    rwa [value_ofNat, Int.sub_add_cancel, Int.add_sub_cancel] at worth

end Layout

/-- The text of a finite double is read as the double. -/
theorem ofDecimalText?_toChars (layout : Layout) {value : Binary64}
    (finite : value.isFinite = true) : ofDecimalText? (value.toChars layout) = some value := by
  cases value with
  | nan | infinite => cases finite
  | finite negative mantissa exponent canonical =>
      change ofDecimalText? (signText negative ++ if mantissa = 0 then ['0', '.', '0'] else
        layout.magnitude mantissa exponent) = _
      split
      next zero =>
        subst zero
        obtain rfl : exponent = 0 := canonical.2.1.resolve_right (by decide)
        cases negative <;> rfl
      next some_mantissa =>
        obtain ⟨decimal, read, sign, places, digits, scale⟩ :=
          layout.decimal?_magnitude negative mantissa exponent
        have contained := (Neighbourhood.contains_shift places).mpr
          (contains_shortest layout.tie canonical)
        rw [← digits, ← scale] at contained
        rw [ofDecimalText?, read, Option.map_some, Decimal.toBinary64, sign]
        exact congrArg some
          (ofDecimal_of_contains negative canonical (Nat.pos_of_ne_zero some_mantissa) contained)

end Schemata.Binary64
