import Schemata.Codec.Encode
import Schemata.Proofs.Codec.Forms

/-!
# Scalars

A built-in type encodes every value that it decodes data to, to the JSON form of the value, and so
does a literal for every value that it takes.
-/

namespace Schemata

/-- Neither a list, a map, an object, a moment nor an instance. -/
def Value.isScalar : Value → Bool
  | .null | .bool _ | .int _ | .float _ | .string _ | .enumCase .. => true
  | _ => false

theorem Value.properties?_of_isScalar {value : Value} (scalar : value.isScalar = true) :
    value.properties? = none := by
  cases value with
  | map entries | object entries => cases scalar
  | _ => rfl

/-- A scalar with a JSON form could have been read. -/
theorem Value.everywhere_isRead_of_isScalar {formats : String → DateTimeFormat → Prop}
    {value : Value} (scalar : value.isScalar = true) (printable : value.IsPrintable) :
    value.Everywhere (IsRead formats) := by
  cases value with
  | null | bool | int | string | enumCase => exact .leaf trivial rfl
  | float value => exact .leaf printable rfl
  | list | map | object | dateTime | host => cases scalar

/-- Not a double that has no JSON form. -/
def Literal.IsFinite : Literal → Prop
  | .float value => value.isFinite = true
  | _ => True

/-! ## Literals -/

theorem Literal.toJson?_toValue {literal : Literal} (finite : literal.IsFinite) :
    literal.toValue.toJson? = some literal.toJson := by
  cases literal with
  | float value =>
      have known : value.isFinite = true := finite
      simp [toValue, toJson, Value.toJson?, Json.ofBinary64, Json.Number.ofBinary64?, known]
  | bool | int | string | enumCase => rfl

/-- Coercion gives finite doubles only. -/
theorem Coercion.isFinite_of_toFloat? {wire : Json} {double : Binary64}
    (coerced : toFloat? wire = some double) : double.isFinite = true := by
  unfold toFloat? at coerced
  split at coerced
  next number =>
    cases coerced
    exact number.isFinite_toBinary64
  · exact (Option.filter_eq_some_iff.mp coerced).2
  next value =>
    cases coerced
    cases value <;> exact Binary64.isFinite_ofInt (by decide)
  · cases coerced

namespace Codec

variable {codec : Codec} {wire written : Json} {value : Value}

theorem isLiteralValue_toValue {literal : Literal} (finite : literal.IsFinite) :
    isLiteralValue literal literal.toValue = true := by
  cases literal with
  | float value => exact Binary64.numEq_self_of_isFinite finite
  | bool | int | string | enumCase => simp [isLiteralValue, Literal.toValue]

/-- A literal that stands for data is no double without a JSON form. -/
theorem isFinite_of_isLiteral {literal : Literal} (stands : codec.isLiteral literal wire = true) :
    literal.IsFinite := by
  cases literal with
  | float value =>
      have coerced {other : Json} (both : (codec.options.coercePrimitives &&
          (Coercion.toFloat? other).any (·.numEq value)) = true) : value.isFinite = true := by
        obtain ⟨double, found, equal⟩ :=
          (Option.any_eq_true _ _).mp (Bool.and_eq_true_iff.mp both).2
        exact Binary64.isFinite_of_numEq equal (Coercion.isFinite_of_toFloat? found)
      cases wire with
      | number found => exact Binary64.isFinite_of_numEq stands found.isFinite_toBinary64
      | _ => exact coerced stands
  | bool | int | string | enumCase => trivial

/-- A value that stands for a literal shows as the literal. -/
theorem showsAs_of_isLiteralValue {literal : Literal} (finite : literal.IsFinite)
    (stands : isLiteralValue literal value = true) : value.ShowsAs literal.toJson := by
  unfold isLiteralValue at stands
  split at stands
  · obtain rfl := eq_of_beq stands
    exact Value.showsAs_of_toJson? rfl
  · obtain rfl := eq_of_beq stands
    exact Value.showsAs_of_toJson? rfl
  next left right =>
    have known : left.isFinite = true := finite
    have known' := Binary64.isFinite_of_numEq stands known
    refine ⟨.number (.float right known'), ?_, ?_⟩
    · simp [Value.toJson?, Json.Number.ofBinary64?, known']
    · simpa [Literal.toJson, Json.ofBinary64, Json.Number.ofBinary64?, known, Json.isEqual,
        Json.Number.isEqual] using stands
  · obtain rfl := eq_of_beq stands
    exact Value.showsAs_of_toJson? rfl
  · obtain ⟨-, same⟩ := Bool.and_eq_true_iff.mp stands
    obtain rfl := eq_of_beq same
    exact Value.showsAs_of_toJson? rfl
  · cases stands

/-- What a built-in type encodes a value to is the JSON form of the value. -/
theorem toJson?_of_encodePrimitive? {kind : BuiltIn}
    (success : encodePrimitive? kind value = some written) : value.toJson? = some written := by
  unfold encodePrimitive? at success
  split at success
  · exact success
  · exact success
  · exact success
  · exact success
  · exact success
  · exact success
  · exact success
  · cases success

/-- What data decodes to along a built-in type is encoded along it. -/
theorem exists_encodePrimitive? {kind : BuiltIn}
    (success : codec.primitive? kind wire = some value) :
    ∃ written, encodePrimitive? kind value = some written := by
  unfold primitive? at success
  cases own : ownPrimitive? kind wire with
  | some found =>
      rw [own] at success
      cases success
      unfold ownPrimitive? at own
      split at own
      · cases own
        exact Value.exists_toJson?_ofJson wire
      · cases own
        exact ⟨_, rfl⟩
      · cases own
        exact ⟨_, rfl⟩
      · cases own
        exact ⟨_, rfl⟩
      · obtain ⟨_, _, rfl⟩ := Option.map_eq_some_iff.mp own
        exact ⟨_, rfl⟩
      next number =>
        cases own
        exact ⟨_, Value.toJson?_float number.isFinite_toBinary64⟩
      · cases own
  | none =>
      rw [own] at success
      dsimp only at success
      split at success
      · unfold coercedPrimitive? at success
        split at success
        · obtain ⟨_, _, rfl⟩ := Option.map_eq_some_iff.mp success
          exact ⟨_, rfl⟩
        · obtain ⟨_, _, rfl⟩ := Option.map_eq_some_iff.mp success
          exact ⟨_, rfl⟩
        · obtain ⟨_, _, rfl⟩ := Option.map_eq_some_iff.mp success
          exact ⟨_, rfl⟩
        · obtain ⟨double, coerced, rfl⟩ := Option.map_eq_some_iff.mp success
          exact ⟨_, Value.toJson?_float (Coercion.isFinite_of_toFloat? coerced)⟩
        · cases success
      · cases success

/-- Only mixed takes values with parts. -/
theorem isScalar_of_encodePrimitive? {kind : BuiltIn} (unmixed : kind ≠ .mixed)
    (success : encodePrimitive? kind value = some written) : value.isScalar = true := by
  unfold encodePrimitive? at success
  split at success
  · exact absurd rfl unmixed
  · rfl
  · rfl
  · rfl
  · rfl
  · rfl
  · rfl
  · cases success

/-- What data decodes to along a built-in type has finite doubles in it, and no moments or
instances. -/
theorem everywhere_isRead_of_primitive? {formats : String → DateTimeFormat → Prop}
    {kind : BuiltIn} (success : codec.primitive? kind wire = some value) :
    value.Everywhere (Value.IsRead formats) := by
  by_cases mixed : kind = .mixed
  · subst mixed
    cases success
    exact Value.everywhere_isRead_ofJson wire
  · obtain ⟨written, encoded⟩ := exists_encodePrimitive? success
    have scalar := isScalar_of_encodePrimitive? mixed encoded
    have printable := Value.exists_toJson?_iff.mp ⟨_, toJson?_of_encodePrimitive? encoded⟩
    exact Value.everywhere_isRead_of_isScalar scalar printable.here

end Codec

end Schemata
