import Schemata.Power
import Schemata.Text.Decimal

/-!
# Laws of decimal text

The digits of a number spell the number, so integers with the same text are equal, and the text of
an integer is read as the integer.
-/

namespace Schemata.Text.Decimal

theorem value_ofNat (number : Nat) : value (ofNat number) = number := by
  have read := Nat.ofDigitChars_ten_toDigits (n := number)
  rwa [Nat.ofDigitChars_eq_foldl] at read

theorem foldl_value (digits : List Char) (total : Nat) :
    digits.foldl (fun total digit => 10 * total + digitValue digit) total =
      total * tenTo digits.length + value digits := by
  induction digits generalizing total with
  | nil => exact (Nat.mul_one total).symm
  | cons digit rest ih =>
      have behind : value (digit :: rest) =
          (10 * 0 + digitValue digit) * tenTo rest.length + value rest := ih _
      have power : tenTo (digit :: rest).length = tenTo rest.length * 10 := Nat.pow_succ ..
      rw [List.foldl_cons, ih, behind, power, ← Nat.add_assoc, Nat.add_mul]
      congr 2
      · rw [Nat.mul_comm 10, Nat.mul_assoc, Nat.mul_comm 10]
      · rw [Nat.mul_zero, Nat.zero_add]

/-- Digits count for as many powers of ten as digits stand behind them. -/
theorem value_append (digits more : List Char) :
    value (digits ++ more) = value digits * tenTo more.length + value more := by
  rw [value, List.foldl_append]
  exact foldl_value more (value digits)

theorem value_zeros (places : Nat) : value (List.replicate places '0') = 0 := by
  induction places with
  | zero => rfl
  | succ places ih => exact ih

theorem isDigit_of_mem_ofNat {number : Nat} {char : Char} (among : char ∈ ofNat number) :
    char.isDigit = true :=
  Nat.isDigit_of_mem_toDigits (by decide) (by decide) among

theorem ofNat_injective {number other : Nat} (same : ofNat number = ofNat other) :
    number = other := by
  rw [← value_ofNat number, same, value_ofNat]

/-- The text of an integer has digits and a minus sign only. -/
theorem isDigit_or_minus_of_mem_ofInt {integer : Int} {char : Char}
    (among : char ∈ ofInt integer) : char.isDigit = true ∨ char = '-' := by
  unfold ofInt at among
  split at among
  · rcases List.mem_cons.mp among with sign | digit
    · exact Or.inr sign
    · exact Or.inl (isDigit_of_mem_ofNat digit)
  · exact Or.inl (isDigit_of_mem_ofNat among)

theorem minus_not_mem_ofNat (number : Nat) : '-' ∉ ofNat number := by
  intro among
  have digit := isDigit_of_mem_ofNat among
  exact absurd digit (by decide)

theorem ofInt_injective {integer other : Int} (same : ofInt integer = ofInt other) :
    integer = other := by
  unfold ofInt at same
  split at same
  next negative =>
    split at same
    next negative' =>
      have equal := ofNat_injective (List.cons.inj same).2
      omega
    next =>
      exact absurd (same ▸ List.mem_cons_self) (minus_not_mem_ofNat _)
  next positive =>
    split at same
    next =>
      exact absurd (same ▸ List.mem_cons_self) (minus_not_mem_ofNat _)
    next positive' =>
      have equal := ofNat_injective same
      omega

/-! ## Reading -/

theorem isDigit_eq (char : Char) : Character.isDigit char = char.isDigit := by
  rw [Character.isDigit, Char.isDigit, Bool.eq_iff_iff]
  simp only [Bool.and_eq_true, decide_eq_true_eq]
  exact Iff.rfl

theorem ofNat_ne_nil (number : Nat) : ofNat number ≠ [] :=
  Nat.toDigits_ne_nil

theorem natural?_ofNat (number : Nat) : natural? (ofNat number) = some number := by
  have digits : (ofNat number).all Character.isDigit = true := by
    rw [List.all_eq_true]
    intro char among
    rw [isDigit_eq]
    exact isDigit_of_mem_ofNat among
  have some_digits : (ofNat number).isEmpty = false := by simpa using ofNat_ne_nil number
  rw [natural?, some_digits, digits, value_ofNat]
  rfl

/-- The longest beginning of a text all of whose characters satisfy a condition. -/
theorem takeWhile_append_of_head {holds : Char → Bool} {word rest : List Char}
    (each : ∀ char ∈ word, holds char = true) (ends : ∀ char ∈ rest.head?, holds char = false) :
    (word ++ rest).takeWhile holds = word := by
  rw [List.takeWhile_append_of_pos each]
  cases rest with
  | nil => rw [List.takeWhile_nil, List.append_nil]
  | cons char rest =>
      have apart := ends char rfl
      rw [List.takeWhile_cons_of_neg (by rw [apart]; decide), List.append_nil]

theorem dropWhile_append_of_head {holds : Char → Bool} {word rest : List Char}
    (each : ∀ char ∈ word, holds char = true) (ends : ∀ char ∈ rest.head?, holds char = false) :
    (word ++ rest).dropWhile holds = rest := by
  rw [List.dropWhile_append_of_pos each]
  cases rest with
  | nil => rfl
  | cons char rest =>
      have apart := ends char rfl
      exact List.dropWhile_cons_of_neg (by rw [apart]; decide)

/-- A text that begins with no sign has none. -/
theorem splitSign_of_head {text : List Char}
    (unsigned : ∀ char ∈ text.head?, char ≠ '-' ∧ char ≠ '+') :
    splitSign text = (false, text) := by
  unfold splitSign
  split
  · exact absurd rfl (unsigned '-' rfl).1
  · exact absurd rfl (unsigned '+' rfl).2
  · rfl

theorem splitSign_ofNat (number : Nat) : splitSign (ofNat number) = (false, ofNat number) := by
  refine splitSign_of_head fun char first => ?_
  have digit := isDigit_of_mem_ofNat (List.mem_of_mem_head? first)
  constructor <;> rintro rfl <;> exact absurd digit (by decide)

theorem integer?_ofInt (integer : Int) : integer? (ofInt integer) = some integer := by
  unfold ofInt
  split
  next negative =>
    have read : integer? ('-' :: ofNat integer.natAbs) = some (-(integer.natAbs : Int)) := by
      rw [integer?, splitSign, natural?_ofNat]
      rfl
    rw [read]
    congr 1
    omega
  next positive =>
    have read : integer? (ofNat integer.natAbs) = some (integer.natAbs : Int) := by
      rw [integer?, splitSign_ofNat, natural?_ofNat]
      rfl
    rw [read]
    congr 1
    omega

/-- A plus sign changes nothing. -/
theorem integer?_plus_ofInt {integer : Int} (positive : 0 ≤ integer) :
    integer? ('+' :: ofInt integer) = some integer := by
  have read : integer? ('+' :: ofNat integer.natAbs) = some (integer.natAbs : Int) := by
    rw [integer?, splitSign, natural?_ofNat]
    rfl
  rw [ofInt, if_neg (by omega), read]
  congr 1
  omega

theorem toInt64?_toInt (value : Int64) : toInt64? value.toInt = some value := by
  have fits : FitsInt64 value.toInt := by
    have low := Int64.le_toInt value
    have high := Int64.toInt_lt value
    exact ⟨by omega, by omega⟩
  rw [toInt64?, if_pos fits, Int64.ofInt_toInt]

/-- The text of a word is read as the word. -/
theorem int64?_ofInt (value : Int64) : int64? (ofInt value.toInt) = some value := by
  rw [int64?, integer?_ofInt, Option.bind_some, toInt64?_toInt]

/-- Integers are read from digits and signs only. -/
theorem digit_or_sign_of_integer? {text : List Char} {integer : Int}
    (read : integer? text = some integer) :
    ∀ char ∈ text, char.isDigit = true ∨ char = '-' ∨ char = '+' := by
  obtain ⟨magnitude, natural, _⟩ := Option.map_eq_some_iff.mp read
  have digits : ∀ char ∈ (splitSign text).2, char.isDigit = true := by
    unfold natural? at natural
    split at natural
    · cases natural
    next all =>
      intro char among
      rw [← isDigit_eq]
      simp only [Bool.or_eq_true, Bool.not_eq_true', not_or, Bool.not_eq_false] at all
      exact List.all_eq_true.mp all.2 char among
  unfold splitSign at digits
  split at digits
  · rintro char (_ | ⟨_, later⟩)
    · exact .inr (.inl rfl)
    · exact .inl (digits char later)
  · rintro char (_ | ⟨_, later⟩)
    · exact .inr (.inr rfl)
    · exact .inl (digits char later)
  · exact fun char among => .inl (digits char among)

theorem toList_repr (number : Nat) : (Nat.repr number).toList = ofNat number := by
  rw [Nat.repr_eq_ofList_toDigits, String.toList_ofList]
  rfl

/-- Integers are shown in decimal. -/
theorem toList_toString (integer : Int) : (toString integer).toList = ofInt integer := by
  cases integer with
  | ofNat number => exact toList_repr number
  | negSucc number =>
      have digits : ofInt (Int.negSucc number) = '-' :: ofNat (number + 1) :=
        if_pos (Int.negSucc_lt_zero number)
      change ("-" ++ Nat.repr (number + 1)).toList = _
      rw [String.toList_append, toList_repr, digits]
      rfl

end Schemata.Text.Decimal
