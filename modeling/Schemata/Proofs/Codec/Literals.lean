import Schemata.Proofs.Codec.Integers
import Schemata.Proofs.Codec.Readings

/-!
# Literals as filters

A literal takes the data that the built-in type of its kind takes as an equal value.  An integer is
the exception: a number that is an integer by coercion only is one for the built-in type, and never
for a literal.
-/

namespace Schemata

def Literal.builtIn? : Literal → Option BuiltIn
  | .bool _ => some .bool
  | .int _ => some .int
  | .float _ => some .float
  | .string _ => some .string
  | .enumCase .. => none

/-- Data that an integer literal does not look at: a number that is no signed word. -/
def Literal.Overlooks : Literal → Json → Prop
  | .int _, .number number => number.toInt64? = none
  | _, _ => False

theorem Literal.overlooks_iff {literal : Literal} {wire : Json} :
    literal.Overlooks wire ↔ ∃ word number, literal = .int word ∧ wire = .number number ∧
      number.toInt64? = none := by
  constructor
  · intro overlooked
    cases literal with
    | int word =>
        cases wire with
        | number number => exact ⟨word, number, rfl, rfl, overlooked⟩
        | _ => exact overlooked.elim
    | _ => exact overlooked.elim
  · rintro ⟨word, number, rfl, rfl, foreign⟩
    exact foreign

namespace Codec

variable {codec : Codec} {literal : Literal} {kind : BuiltIn} {wire : Json} {value : Value}

/-- A built-in type takes data as a value that is equal to a literal. -/
def GivesEqual (codec : Codec) (kind : BuiltIn) (literal : Literal) (wire : Json) : Prop :=
  ∃ found, codec.decode (.builtIn kind) wire = .ok found ∧ isLiteralValue literal found = true

theorem decode_literal_eq_ok_iff :
    codec.decode (.literal literal) wire = .ok value ↔
      0 < codec.options.maxDepth ∧ codec.isLiteral literal wire = true ∧
        value = literal.toValue := by
  rw [decode_eq_ok_iff]
  cases codec.options.maxDepth with
  | zero => exact iff_of_false not_decodes_zero fun both => absurd both.1 (Nat.lt_irrefl 0)
  | succ levels =>
      exact decodes_literal_iff.trans (and_iff_right (Nat.succ_pos levels)).symm

/-- Data of its own kind stands for a literal when its value does. -/
theorem isLiteral_of_own (own : literal.builtIn? = some kind) {found : Value}
    (read : ownPrimitive? kind wire = some found) :
    codec.isLiteral literal wire = isLiteralValue literal found := by
  cases literal with
  | enumCase => cases own
  | bool | float | string =>
      cases own
      cases wire <;> cases read
      simp only [isLiteral, isLiteralValue, BEq.comm, Binary64.numEq_comm]
  | int word =>
      cases own
      cases wire with
      | number number =>
          obtain ⟨found, word', rfl⟩ := Option.map_eq_some_iff.mp read
          simp [isLiteral, isLiteralValue, word', BEq.comm]
      | _ => cases read

/-- A reading is the one that a literal asks for when its value stands for the literal. -/
theorem reading_beq_eq_any {α : Type} [BEq α] [LawfulBEq α] (toValue : α → Value) {asked : α}
    (same : ∀ found, isLiteralValue literal (toValue found) = (asked == found))
    (reading : Option α) :
    (reading == some asked) = (reading.map toValue).any (isLiteralValue literal) := by
  cases reading with
  | none => rfl
  | some found => exact BEq.comm.trans (same found).symm

/-- Data of another kind stands for a literal when it has a coerced value that does. -/
theorem isLiteral_of_foreign (own : literal.builtIn? = some kind)
    (foreign : ownPrimitive? kind wire = none) (looked : ¬ literal.Overlooks wire) :
    codec.isLiteral literal wire =
      (codec.options.coercePrimitives &&
        (coercedPrimitive? kind wire).any (isLiteralValue literal)) := by
  cases literal with
  | enumCase => cases own
  | bool asked =>
      cases own
      have read (reading : Option Bool) : (reading == some asked) =
          (reading.map Value.bool).any (isLiteralValue (.bool asked)) :=
        reading_beq_eq_any _ (fun _ => rfl) reading
      cases wire with
      | bool => cases foreign
      | _ => exact congrArg (codec.options.coercePrimitives && ·) (read _)
  | int asked =>
      cases own
      have read (reading : Option Int64) : (reading == some asked) =
          (reading.map Value.int).any (isLiteralValue (.int asked)) :=
        reading_beq_eq_any _ (fun _ => rfl) reading
      cases wire with
      | number number => exact absurd (Option.map_eq_none_iff.mp foreign) looked
      | _ => exact congrArg (codec.options.coercePrimitives && ·) (read _)
  | string asked =>
      cases own
      have read (reading : Option String) : (reading == some asked) =
          (reading.map Value.string).any (isLiteralValue (.string asked)) :=
        reading_beq_eq_any _ (fun _ => rfl) reading
      cases wire with
      | string => cases foreign
      | _ => exact congrArg (codec.options.coercePrimitives && ·) (read _)
  | float asked =>
      cases own
      have read (reading : Option Binary64) : reading.any (·.numEq asked) =
          (reading.map Value.float).any (isLiteralValue (.float asked)) := by
        cases reading with
        | none => rfl
        | some found => exact Binary64.numEq_comm ..
      cases wire with
      | number => cases foreign
      | _ => exact congrArg (codec.options.coercePrimitives && ·) (read _)

/-- A literal stands for the data that the built-in type of its kind reads as an equal value, unless
it overlooks it. -/
theorem isLiteral_iff (own : literal.builtIn? = some kind) :
    codec.isLiteral literal wire = true ↔
      (∃ found, codec.primitive? kind wire = some found ∧ isLiteralValue literal found = true) ∧
        ¬ literal.Overlooks wire := by
  cases read : ownPrimitive? kind wire with
  | some found =>
      have looked : ¬ literal.Overlooks wire := by
        rw [Literal.overlooks_iff]
        rintro ⟨word, number, rfl, rfl, foreign⟩
        cases own
        simp [ownPrimitive?, foreign] at read
      have taken : codec.primitive? kind wire = some found := by
        simp only [primitive?, read]
      rw [isLiteral_of_own own read, taken]
      simp [looked]
  | none =>
      by_cases overlooked : literal.Overlooks wire
      · obtain ⟨word, number, rfl, rfl, foreign⟩ := Literal.overlooks_iff.mp overlooked
        simp [isLiteral, foreign, overlooked]
      · rw [isLiteral_of_foreign own read overlooked]
        simp only [primitive?, read]
        cases codec.options.coercePrimitives with
        | false => simp
        | true => simp [overlooked, Option.any_eq_true]

/-- A literal takes the data that the built-in type of its kind takes as an equal value, and gives
its own value, unless the data is a number that an integer literal overlooks.  That makes a
difference for the numbers that are coerced to the word of the literal, and for nothing else. -/
theorem decode_literal_of_builtIn (deep : 0 < codec.options.maxDepth)
    (own : literal.builtIn? = some kind) (wire : Json) :
    (∀ value, codec.decode (.literal literal) wire = .ok value ↔
      value = literal.toValue ∧ codec.GivesEqual kind literal wire ∧ ¬ literal.Overlooks wire) ∧
    (codec.GivesEqual kind literal wire ∧ literal.Overlooks wire ↔
      codec.options.coercePrimitives = true ∧ ∃ word number, literal = .int word ∧
        wire = .number number ∧ number.toInt64? = none ∧
          ((word.toInt : Rat) = number.toRat ∨
            number.RoundsToLimit ∧ word = Int64.maxValue)) := by
  have gives : codec.GivesEqual kind literal wire ↔
      ∃ found, codec.primitive? kind wire = some found ∧ isLiteralValue literal found = true := by
    simp only [GivesEqual, decode_builtIn_eq_ok_iff, deep, true_and]
  refine ⟨fun value => ?_, ?_⟩
  · rw [decode_literal_eq_ok_iff, isLiteral_iff own, gives]
    constructor
    · rintro ⟨_, taken, same⟩
      exact ⟨same, taken⟩
    · rintro ⟨same, taken⟩
      exact ⟨deep, taken, same⟩
  · rw [gives, Literal.overlooks_iff]
    constructor
    · rintro ⟨⟨found, taken, stands⟩, word, number, rfl, rfl, foreign⟩
      cases own
      have coerces : codec.options.coercePrimitives = true := by
        by_contra strict
        rw [primitive?_of_strict (eq_false_of_ne_true strict), ownPrimitive?, foreign] at taken
        cases taken
      rw [primitive?_int_number coerces] at taken
      obtain ⟨read, known, rfl⟩ := Option.map_eq_some_iff.mp taken
      obtain rfl := eq_of_beq stands
      exact ⟨coerces, word, number, rfl, rfl, foreign, Coercion.toInt?_number_iff.mp known⟩
    · rintro ⟨coerces, word, number, rfl, rfl, foreign, close⟩
      cases own
      refine ⟨?_, word, number, rfl, rfl, foreign⟩
      rw [primitive?_int_number coerces, Coercion.toInt?_number_iff.mpr close]
      exact ⟨.int word, rfl, beq_self_eq_true word⟩

def twoAsDouble : Json.Number :=
  .float (Binary64.ofInt 2) (Binary64.isFinite_ofInt (by decide))

theorem decode_literal_of_text :
    Literal.builtIn? (.int 2) = some .int ∧
      ({ types := {}, options := { coercePrimitives := true } } : Codec).decode (.literal (.int 2))
        (.string " 2 ") = .ok (.int 2) := by
  have taken := (@decode_literal_of_builtIn { types := {}, options := { coercePrimitives := true } }
    (.int 2) .int (by decide) rfl (.string " 2 ")).1
  exact ⟨rfl, (taken _).mpr ⟨rfl, ⟨.int 2, rfl, rfl⟩, id⟩⟩

/-- The built-in type takes an integer that is written as a double, and the literal of the same value
does not. -/
theorem literal_overlooks_double :
    ({ types := {}, options := { coercePrimitives := true } } : Codec).decode (.builtIn .int)
        (.number twoAsDouble) = .ok (.int 2) ∧
      ({ types := {}, options := { coercePrimitives := true } } : Codec).decode (.literal (.int 2))
        (.number twoAsDouble) ≠ .ok (.int 2) := by
  have finite := Binary64.isFinite_ofInt (by decide : Json.FitsWord 2)
  have same : ((2 : Int64).toInt : Rat) = twoAsDouble.toRat :=
    ((Binary64.toInt?_eq_some_iff finite).mp (by decide +kernel)).symm
  refine ⟨decode_builtIn_eq_ok_iff.mpr ⟨by decide, ?_⟩, fun taken => ?_⟩
  · rw [primitive?_int_number rfl, Coercion.toInt?_number_iff.mpr (.inl same)]
    rfl
  · exact absurd (decode_literal_eq_ok_iff.mp taken).2.1 nofun

end Codec

end Schemata
