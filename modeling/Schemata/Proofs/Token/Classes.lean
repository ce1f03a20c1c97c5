import Schemata.Proofs.Token.Tiling

/-!
# Classes of words

Every word is a boolean, an integer of 64 bits, a double or an identifier, and the grammar of
numbers tells which.  A word is the same token wherever it stands.
-/

namespace Schemata.Token

open Text Text.Decimal

variable {word : List Char}

/-! ## Numbers and other words -/

/-- A number begins with a sign, a digit or a point, and so is none of the words for booleans. -/
theorem ne_bool_of_isNumber (number : IsNumber word) :
    word ≠ "true".toList ∧ word ≠ "false".toList := by
  have body := (isNumber_iff.mp number).head?_eq
  constructor
  · rintro rfl
    exact absurd (body 't' rfl) (by decide)
  · rintro rfl
    exact absurd (body 'f' rfl) (by decide)

/-- A word that differs from both words for booleans is the text of neither. -/
theorem ne_boolText (other : word ≠ "true".toList ∧ word ≠ "false".toList) (value : Bool) :
    word ≠ (if value then "true" else "false").toList := by
  cases value with
  | true => exact other.1
  | false => exact other.2

/-- The words of 64 bits hold the integers that fit them. -/
theorem fitsInt64_iff {integer : Int} :
    FitsInt64 integer ↔ ∃ value : Int64, integer = value.toInt := by
  simp only [← toInt64?_eq_some_iff, toInt64?, Option.ite_none_right_eq_some, exists_and_left]
  constructor
  · intro fits
    exact ⟨fits, _, rfl⟩
  · exact And.left

theorem ofWord_of_spellsInteger {value : Int64} (spells : SpellsInteger word value.toInt) :
    ofWord word = .integer value := by
  obtain ⟨no_true, no_false⟩ := ne_bool_of_isNumber spells.isNumber
  rw [ofWord_eq, if_neg no_true, if_neg no_false, int64?_eq_some_iff.mpr spells]

/-- A number that is no integer of 64 bits is a double. -/
theorem exists_ofWord_eq_float (number : IsNumber word)
    (unfit : ∀ integer, SpellsInteger word integer → ¬ FitsInt64 integer) :
    ∃ value, ofWord word = .float value := by
  obtain ⟨no_true, no_false⟩ := ne_bool_of_isNumber number
  obtain ⟨value, read⟩ := Binary64.exists_ofDecimalText?_iff.mpr number
  have no_integer : int64? word = none := by
    rw [Option.eq_none_iff_forall_ne_some]
    intro found here
    exact unfit _ (int64?_eq_some_iff.mp here) (fitsInt64_iff.mpr ⟨found, rfl⟩)
  refine ⟨value, ?_⟩
  rw [ofWord_eq, if_neg no_true, if_neg no_false, no_integer, read]

/-- What is no number is a boolean or an identifier. -/
theorem ofWord_of_not_isNumber (other : ¬ IsNumber word) :
    ofWord word = if word = "true".toList then .bool true
      else if word = "false".toList then .bool false
      else .word (String.ofList word) := by
  rw [ofWord, if_neg (isNumeric_iff.not.mpr other)]

/-! ## Classes -/

/-- The token of a word has the class that the spelling of the word gives it. -/
structure Classifies (word : List Char) (token : Token) : Prop where
  /-- Two words are booleans. -/
  bool : ∀ value, token = .bool value ↔ word = (if value then "true" else "false").toList
  /-- A word that spells an integer is that integer. -/
  integer : ∀ value : Int64, token = .integer value ↔ SpellsInteger word value.toInt
  /-- A number is a double unless it spells an integer that fits 64 bits. -/
  float : (∃ value, token = .float value) ↔
    IsNumber word ∧ ∀ integer, SpellsInteger word integer → ¬ FitsInt64 integer
  /-- Every other word is an identifier as it stands. -/
  identifier : ∀ text, token = .word text ↔ text = String.ofList word ∧
    word ≠ "true".toList ∧ word ≠ "false".toList ∧ ¬ IsNumber word

theorem classifies_integer {value : Int64} (spells : SpellsInteger word value.toInt) :
    Classifies word (.integer value) where
  bool other := iff_of_false nofun (ne_boolText (ne_bool_of_isNumber spells.isNumber) other)
  integer other := by
    constructor
    · rintro ⟨⟩
      exact spells
    · intro again
      exact (ofWord_of_spellsInteger spells).symm.trans (ofWord_of_spellsInteger again)
  float := by
    apply iff_of_false nofun
    rintro ⟨-, unfit⟩
    exact unfit _ spells (fitsInt64_iff.mpr ⟨value, rfl⟩)
  identifier _ := iff_of_false nofun fun other => other.2.2.2 spells.isNumber

theorem classifies_float (value : Binary64) (number : IsNumber word)
    (unfit : ∀ integer, SpellsInteger word integer → ¬ FitsInt64 integer) :
    Classifies word (.float value) where
  bool other := iff_of_false nofun (ne_boolText (ne_bool_of_isNumber number) other)
  integer found := by
    apply iff_of_false nofun
    intro spells
    exact unfit _ spells (fitsInt64_iff.mpr ⟨found, rfl⟩)
  float := iff_of_true ⟨value, rfl⟩ ⟨number, unfit⟩
  identifier _ := iff_of_false nofun fun other => other.2.2.2 number

theorem classifies_bool (value : Bool) :
    Classifies (if value then "true" else "false").toList (.bool value) := by
  have other : ¬ IsNumber (if value then "true" else "false").toList := fun number =>
    ne_boolText (ne_bool_of_isNumber number) value rfl
  constructor
  · intro found
    cases value <;> cases found <;> simp
  · exact fun _ => iff_of_false nofun fun spells => other spells.isNumber
  · exact iff_of_false nofun fun number => other number.1
  · intro _
    apply iff_of_false nofun
    rintro ⟨-, no_true, no_false, -⟩
    exact ne_boolText ⟨no_true, no_false⟩ value rfl

theorem classifies_identifier (no_bool : word ≠ "true".toList ∧ word ≠ "false".toList)
    (other : ¬ IsNumber word) : Classifies word (.word (String.ofList word)) where
  bool value := iff_of_false nofun (ne_boolText no_bool value)
  integer _ := iff_of_false nofun fun spells => other spells.isNumber
  float := iff_of_false nofun fun number => other number.1
  identifier text := by
    constructor
    · rintro ⟨⟩
      exact ⟨rfl, no_bool.1, no_bool.2, other⟩
    · rintro ⟨rfl, -⟩
      rfl

theorem classifies_ofWord (word : List Char) : Classifies word (ofWord word) := by
  by_cases number : IsNumber word
  · by_cases fits : ∃ integer, SpellsInteger word integer ∧ FitsInt64 integer
    · obtain ⟨integer, spells, fits⟩ := fits
      obtain ⟨value, rfl⟩ := fitsInt64_iff.mp fits
      rw [ofWord_of_spellsInteger spells]
      exact classifies_integer spells
    · have unfit : ∀ integer, SpellsInteger word integer → ¬ FitsInt64 integer := by
        intro integer spells here
        exact fits ⟨integer, spells, here⟩
      obtain ⟨value, same⟩ := exists_ofWord_eq_float number unfit
      rw [same]
      exact classifies_float value number unfit
  · rw [ofWord_of_not_isNumber number]
    split
    next is_true =>
      rw [is_true]
      exact classifies_bool true
    next no_true =>
      split
      next is_false =>
        rw [is_false]
        exact classifies_bool false
      next no_false => exact classifies_identifier ⟨no_true, no_false⟩ number

/-! ## Words of an input -/

/-- A run of characters that words hold is one token, of the class its spelling gives it, and it is
this token in every input in which it stands as one. -/
theorem tokenize_word (some_chars : word ≠ []) (each : ∀ char ∈ word, isWordChar char = true) :
    ∃ token, Classifies word token ∧
      tokenize (String.ofList word) = .ok [⟨token, ⟨0, word.length⟩⟩,
        ⟨.endOfInput, ⟨word.length, word.length⟩⟩] ∧
      ∀ input lexemes, tokenize input = .ok lexemes → ∀ lexeme ∈ lexemes,
        lexeme.span.slice input = String.ofList word → lexeme.token = token := by
  have alone : tokenize (String.ofList word) = .ok [⟨ofWord word, ⟨0, word.length⟩⟩,
      ⟨.endOfInput, ⟨word.length, word.length⟩⟩] := by
    cases word with
    | nil => exact absurd rfl some_chars
    | cons char more =>
        obtain ⟨visible, first⟩ := first?_word each atBoundary_nil
        rw [List.append_nil] at first
        exact tokenize_eq_of_first? visible first
  have spelled := classifies_ofWord word
  generalize ofWord word = token at alone spelled
  refine ⟨token, spelled, alone, fun input lexemes lexed lexeme among covers => ?_⟩
  obtain ⟨inner, rfl, tiling⟩ := tiling_of_tokenize lexed
  rcases List.mem_append.mp among with inside | last
  · have here := tiling.alone lexeme inside
    rw [covers, alone] at here
    obtain ⟨same, -⟩ := List.cons.inj (Except.ok.inj here)
    exact congrArg Lexeme.token same.symm
  · obtain rfl := List.mem_singleton.mp last
    -- The end covers nothing, and the run has a character.
    rw [Span.slice, Span.width, Nat.sub_self, List.take_zero] at covers
    exact absurd (String.ofList_injective covers).symm some_chars

/-- The least number behind the integers of 64 bits is a double. -/
theorem tokenize_word_of_limit :
    let word := "9223372036854775808".toList
    word ≠ [] ∧ (∀ char ∈ word, isWordChar char = true) ∧ ∃ value,
      tokenize "9223372036854775808" = .ok [⟨.float value, ⟨0, 19⟩⟩, ⟨.endOfInput, ⟨19, 19⟩⟩] := by
  intro word
  have some_chars : word ≠ [] := by decide
  have each : ∀ char ∈ word, isWordChar char = true := List.all_eq_true.mp (by decide)
  have number : IsNumber word := isNumeric_iff.mp (by decide)
  have unfit : ∀ integer, SpellsInteger word integer → ¬ FitsInt64 integer := by
    intro integer spells
    have read : integer? word = some 9223372036854775808 := by decide
    obtain rfl := Option.some.inj (read.symm.trans (integer?_eq_some_iff.mpr spells))
    decide
  obtain ⟨token, spelled, alone, -⟩ := tokenize_word some_chars each
  obtain ⟨value, rfl⟩ := spelled.float.mpr ⟨number, unfit⟩
  exact ⟨some_chars, each, value, alone⟩

end Schemata.Token
