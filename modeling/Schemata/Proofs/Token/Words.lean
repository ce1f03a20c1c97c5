import Schemata.Proofs.Json.Text
import Schemata.Proofs.Token.Numerals

/-!
# The words of printed types

Letters, digits, underscores, hyphens and points are characters that words hold.  The text of a
number is a word that stands for the number.
-/

namespace Schemata

open Text

/-- A code point that is held lies in one of the ranges. -/
theorem Text.CodeRanges.exists_range_of_holds {ranges : CodeRanges} {code : Nat}
    (held : ranges.holds code = true) :
    ∃ range ∈ ranges, range.1 ≤ code ∧ code ≤ range.2 := by
  induction ranges with
  | nil => cases held
  | cons range rest ih =>
      unfold holds at held
      split at held
      · cases held
      next above =>
        split at held
        next below => exact ⟨range, List.mem_cons_self, by omega, below⟩
        · obtain ⟨found, among, inside⟩ := ih held
          exact ⟨found, List.mem_cons_of_mem _ among, inside⟩

namespace Text.Character

open GeneralCategory

def blankCodes : List Nat :=
  [0x09, 0x0a, 0x0b, 0x0c, 0x0d, 0x20, 0x85, 0xa0, 0x1680, 0x2000, 0x2001, 0x2002, 0x2003, 0x2004,
    0x2005, 0x2006, 0x2007, 0x2008, 0x2009, 0x200a, 0x2028, 0x2029, 0x202f, 0x205f, 0x3000]

/-- The characters that quotes and marks begin with. -/
def delimiters : List Char :=
  ['|', '&', '<', '>', ',', '\x7b', '\x7d', '(', ')', '?', ']', ':', '[', '\x27', '\x22']

set_option maxRecDepth 20000 in
theorem any_isAlphanumeric_blankCodes :
    (blankCodes.any fun code => isAlphanumeric (Char.ofNat code)) = false := by
  decide +kernel

set_option maxRecDepth 20000 in
theorem any_isAlphanumeric_delimiters : delimiters.any isAlphanumeric = false := by
  decide +kernel

/-- The separators are blanks. -/
theorem mem_blankCodes_of_separators :
    ∀ range ∈ spaceSeparator ++ lineSeparator ++ paragraphSeparator,
      ∀ code ∈ List.range' range.1 (range.2 + 1 - range.1), code ∈ blankCodes := by
  decide

theorem toNat_mem_blankCodes {char : Char} (blank : isBlank char = true) :
    char.toNat ∈ blankCodes := by
  have known {ranges : CodeRanges} (held : ranges.holds char.toNat = true)
      (among : ranges ⊆ spaceSeparator ++ lineSeparator ++ paragraphSeparator) :
      char.toNat ∈ blankCodes := by
    obtain ⟨range, inside, first, last⟩ := CodeRanges.exists_range_of_holds held
    refine mem_blankCodes_of_separators range (among inside) _ (List.mem_range'_1.mpr ⟨first, ?_⟩)
    omega
  unfold isBlank at blank
  dsimp only at blank
  split at blank
  · simp only [Bool.or_eq_true, Bool.and_eq_true, decide_eq_true_eq, beq_iff_eq] at blank
    simp only [blankCodes, List.mem_cons, List.not_mem_nil, or_false]
    omega
  · simp only [Bool.or_eq_true, beq_iff_eq] at blank
    rcases blank with ((next | space) | line) | paragraph
    · rw [next]
      decide
    · exact known space fun _ inside => List.mem_append_left _ (List.mem_append_left _ inside)
    · exact known line fun _ inside => List.mem_append_left _ (List.mem_append_right _ inside)
    · exact known paragraph fun _ inside => List.mem_append_right _ inside

end Text.Character

namespace Token

open Text.Character

/-- What words cannot hold is a blank or what a quote or a mark begins with. -/
theorem eq_of_isWordChar_eq_false {char : Char} (apart : isWordChar char = false) :
    char.toNat ∈ blankCodes ∨ char ∈ delimiters := by
  simp only [isWordChar, Bool.not_eq_false', Bool.or_eq_true] at apart
  rcases apart with (blank | quote) | mark
  · exact .inl (toNat_mem_blankCodes blank)
  · right
    simp only [isQuote, Bool.or_eq_true, beq_iff_eq] at quote
    rcases quote with rfl | rfl <;> decide
  · right
    refine Decidable.byContradiction fun absent => ?_
    simp only [delimiters, List.mem_cons, List.not_mem_nil, or_false, not_or] at absent
    simp [markAt?, absent] at mark

theorem isWordChar_of_isAlphanumeric {char : Char} (alphanumeric : isAlphanumeric char = true) :
    isWordChar char = true := by
  cases held : isWordChar char with
  | true => rfl
  | false =>
      rcases eq_of_isWordChar_eq_false held with blank | delimiter
      · have none := List.any_eq_false.mp any_isAlphanumeric_blankCodes _ blank
        rw [Char.ofNat_toNat] at none
        exact absurd alphanumeric none
      · exact absurd alphanumeric (List.any_eq_false.mp any_isAlphanumeric_delimiters _ delimiter)

theorem isWordChar_of_isDigit {char : Char} (digit : char.isDigit = true) :
    isWordChar char = true := by
  cases held : isWordChar char with
  | true => rfl
  | false =>
      rcases eq_of_isWordChar_eq_false held with blank | delimiter
      · have digits : (blankCodes.any fun code => (Char.ofNat code).isDigit) = false := by decide
        have none := List.any_eq_false.mp digits _ blank
        rw [Char.ofNat_toNat] at none
        exact absurd digit none
      · have digits : delimiters.any Char.isDigit = false := by decide
        exact absurd digit (List.any_eq_false.mp digits _ delimiter)

end Token

/-! ## Numbers -/

namespace Binary64

/-- Digits, the minus sign, the point and the exponent mark. -/
def IsNumeral (char : Char) : Prop :=
  char.isDigit = true ∨ char = '-' ∨ char = '.' ∨ char = 'e'

theorem isNumeral_of_mem_positional {digits : List Char}
    (each : ∀ char ∈ digits, char.isDigit = true) (point : Int) :
    ∀ char ∈ Layout.positional digits point, IsNumeral char := by
  intro char among
  unfold Layout.positional at among
  split at among
  · simp only [List.cons_append, List.mem_cons, List.mem_append, List.mem_replicate] at among
    rcases among with rfl | rfl | ⟨_, rfl⟩ | digit
    · exact .inl (by decide)
    · exact .inr (.inr (.inl rfl))
    · exact .inl (by decide)
    · exact .inl (each char digit)
  · simp only [List.append_assoc, List.mem_append, List.mem_replicate, List.mem_cons] at among
    rcases among with whole | ⟨_, rfl⟩ | rfl | fraction
    · exact .inl (each char (List.mem_of_mem_take whole))
    · exact .inl (by decide)
    · exact .inr (.inr (.inl rfl))
    · split at fraction
      · obtain rfl := List.mem_singleton.mp fraction
        exact .inl (by decide)
      · exact .inl (each char (List.mem_of_mem_drop fraction))

theorem isNumeral_of_mem_scientific {digits : List Char}
    (each : ∀ char ∈ digits, char.isDigit = true) (exponent : Int) :
    ∀ char ∈ Layout.typeText.scientific digits exponent, IsNumeral char := by
  intro char among
  simp only [Layout.scientific, Layout.typeText, Bool.false_eq_true, false_and, if_false,
    List.nil_append, List.append_assoc, List.mem_append, List.mem_cons] at among
  rcases among with first | fraction | rfl | digit
  · exact .inl (each char (List.mem_of_mem_take first))
  · split at fraction
    · cases fraction
    · rcases List.mem_cons.mp fraction with rfl | digit
      · exact .inr (.inr (.inl rfl))
      · exact .inl (each char (List.mem_of_mem_drop digit))
  · exact .inr (.inr (.inr rfl))
  · rcases Text.Decimal.isDigit_or_minus_of_mem_ofInt digit with digit | minus
    · exact .inl digit
    · exact .inr (.inl minus)

/-- The text of a finite double in type strings is made of numerals. -/
theorem isNumeral_of_mem_toChars {value : Binary64} (finite : value.isFinite = true) :
    ∀ char ∈ value.toChars .typeText, IsNumeral char := by
  cases value with
  | nan | infinite => cases finite
  | finite negative mantissa exponent canonical =>
      intro char among
      rcases List.mem_append.mp among with sign | unsigned
      · split at sign
        · exact .inr (.inl (List.mem_singleton.mp sign))
        · cases sign
      · split at unsigned
        · simp only [List.mem_cons, List.not_mem_nil, or_false] at unsigned
          rcases unsigned with rfl | rfl | rfl
          · exact .inl (by decide)
          · exact .inr (.inr (.inl rfl))
          · exact .inl (by decide)
        · have digits : ∀ char ∈ Text.Decimal.ofNat (shortest Layout.typeText.tie mantissa
              exponent).1, char.isDigit = true :=
            fun _ digit => Text.Decimal.isDigit_of_mem_ofNat digit
          unfold Layout.magnitude at unsigned
          dsimp only at unsigned
          split at unsigned
          · exact isNumeral_of_mem_positional digits _ char unsigned
          · exact isNumeral_of_mem_scientific digits _ char unsigned

end Binary64

namespace Token

theorem isWordChar_of_isNumeral {char : Char} (numeral : Binary64.IsNumeral char) :
    isWordChar char = true := by
  rcases numeral with digit | rfl | rfl | rfl
  · exact isWordChar_of_isDigit digit
  all_goals decide

theorem isWordChar_of_mem_ofInt {integer : Int} {char : Char}
    (among : char ∈ Decimal.ofInt integer) : isWordChar char = true := by
  rcases Decimal.isDigit_or_minus_of_mem_ofInt among with digit | rfl
  · exact isWordChar_of_isDigit digit
  · decide

/-- A word of numerals is none of the words for booleans. -/
theorem ne_bool_of_isNumeral {word : List Char}
    (numerals : ∀ char ∈ word, Binary64.IsNumeral char) :
    word ≠ "true".toList ∧ word ≠ "false".toList := by
  constructor
  · rintro rfl
    have absurd := numerals 't' (by decide)
    simp [Binary64.IsNumeral] at absurd
  · rintro rfl
    have absurd := numerals 'f' (by decide)
    simp [Binary64.IsNumeral] at absurd

theorem ofWord_ofInt (value : Int64) : ofWord (Decimal.ofInt value.toInt) = .integer value := by
  have numerals : ∀ char ∈ Decimal.ofInt value.toInt, Binary64.IsNumeral char :=
    fun _ among => (Decimal.isDigit_or_minus_of_mem_ofInt among).imp_right .inl
  obtain ⟨notTrue, notFalse⟩ := ne_bool_of_isNumeral numerals
  rw [ofWord_eq, if_neg notTrue, if_neg notFalse, Decimal.int64?_ofInt]

/-- The text of a finite double stands for the double. -/
theorem ofWord_toChars {value : Binary64} (finite : value.isFinite = true) :
    ofWord (value.toChars .typeText) = .float value := by
  obtain ⟨notTrue, notFalse⟩ :=
    ne_bool_of_isNumeral (Binary64.isNumeral_of_mem_toChars finite)
  have fractional : Decimal.int64? (value.toChars .typeText) = none := by
    rw [Decimal.int64?, Option.bind_eq_none_iff]
    intro integer whole
    obtain ⟨char, among, fraction⟩ := Binary64.fractional_mem_toChars .typeText finite
    have sign := Decimal.digit_or_sign_of_integer? whole char among
    rcases fraction with rfl | rfl <;> simp at sign
  rw [ofWord_eq, if_neg notTrue, if_neg notFalse, fractional,
    Binary64.ofDecimalText?_toChars .typeText finite]

end Token

end Schemata
