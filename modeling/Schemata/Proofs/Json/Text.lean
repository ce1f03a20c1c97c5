import Schemata.Node.Discriminator
import Schemata.Proofs.Binary64.Rounding
import Schemata.Proofs.Text.Decimal

/-!
# Texts of scalars

The text of a double shows a point or an exponent, so it is never the text of an integer.  Of the
literals, an integer alone has the text of an integer.
-/

namespace Schemata

namespace Binary64

/-- A character that integers have not. -/
def IsFractional (char : Char) : Prop :=
  char = '.' ∨ char = 'e'

theorem fractional_mem_positional (digits : List Char) (point : Int) :
    ∃ char ∈ Layout.positional digits point, IsFractional char := by
  refine ⟨'.', ?_, Or.inl rfl⟩
  unfold Layout.positional
  split <;> simp

theorem fractional_mem_scientific (layout : Layout) (digits : List Char) (exponent : Int) :
    ∃ char ∈ layout.scientific digits exponent, IsFractional char := by
  refine ⟨'e', ?_, Or.inr rfl⟩
  simp [Layout.scientific]

/-- The text of a finite double shows a point or an exponent. -/
theorem fractional_mem_toChars (layout : Layout) {value : Binary64}
    (finite : value.isFinite = true) : ∃ char ∈ value.toChars layout, IsFractional char := by
  cases value with
  | nan | infinite => cases finite
  | finite negative mantissa exponent canonical =>
      have unsigned : ∃ char ∈ if mantissa = 0 then ['0', '.', '0'] else
          layout.magnitude mantissa exponent, IsFractional char := by
        split
        · exact ⟨'.', by simp, Or.inl rfl⟩
        · unfold Layout.magnitude
          dsimp only
          split
          · exact fractional_mem_positional _ _
          · exact fractional_mem_scientific _ _ _
      obtain ⟨char, among, fractional⟩ := unsigned
      exact ⟨char, List.mem_append_right _ among, fractional⟩

theorem jsonText_one : one.jsonText = "1.0" := by decide +kernel

end Binary64

/-- A text that holds a character of no integer is the text of none. -/
theorem Text.Decimal.ofList_ofInt_ne {text : String} (char : Char) (among : char ∈ text.toList)
    (digit : char.isDigit = false) (minus : char ≠ '-') (integer : Int) :
    text ≠ String.ofList (Decimal.ofInt integer) := by
  rintro rfl
  rw [String.toList_ofList] at among
  rcases Decimal.isDigit_or_minus_of_mem_ofInt among with found | found
  · rw [digit] at found
    cases found
  · exact minus found

namespace Json

open Text.Decimal (ofList_ofInt_ne)

theorem compact_bool_ne (value : Bool) (integer : Int) :
    (Json.bool value).compact ≠ String.ofList (Text.Decimal.ofInt integer) := by
  cases value with
  | true => exact ofList_ofInt_ne 't' (by decide) (by decide) (by decide) integer
  | false => exact ofList_ofInt_ne 'f' (by decide) (by decide) (by decide) integer

theorem compact_string_ne (text : String) (integer : Int) :
    (Json.string text).compact ≠ String.ofList (Text.Decimal.ofInt integer) := by
  refine ofList_ofInt_ne '\x22' ?_ (by decide) (by decide) integer
  simp [compact, quoted]

theorem compact_ofBinary64_ne (value : Binary64) (integer : Int) :
    (Json.ofBinary64 value).compact ≠ String.ofList (Text.Decimal.ofInt integer) := by
  unfold ofBinary64 Number.ofBinary64?
  split
  next number finite =>
    split at finite
    next known =>
      cases finite
      obtain ⟨char, among, fractional⟩ := Binary64.fractional_mem_toChars .json known
      refine ofList_ofInt_ne char ?_ ?_ ?_ integer
      · simpa [compact, Number.text, Binary64.jsonText] using among
      · rcases fractional with rfl | rfl <;> decide
      · rcases fractional with rfl | rfl <;> decide
    next => cases finite
  · exact ofList_ofInt_ne 'n' (by decide) (by decide) (by decide) integer

end Json

/-- A literal whose text is that of an integer is the integer. -/
theorem Literal.eq_int_of_wireKey {literal : Literal} {integer : Int}
    (same : literal.wireKey = String.ofList (Text.Decimal.ofInt integer)) :
    ∃ value, literal = .int value ∧ value.toInt = integer := by
  cases literal with
  | int value =>
      refine ⟨value, rfl, Text.Decimal.ofInt_injective ?_⟩
      have lists := congrArg String.toList same
      simpa [wireKey, toJson, Json.compact, Json.ofInt64, Json.Number.ofInt64,
        Json.Number.text] using lists
  | bool value => exact absurd same (Json.compact_bool_ne value integer)
  | float value => exact absurd same (Json.compact_ofBinary64_ne value integer)
  | string value => exact absurd same (Json.compact_string_ne value integer)
  | enumCase enumeration case => exact absurd same (Json.compact_string_ne case integer)

end Schemata
