import Schemata.Proofs.Codec.Regular
import Schemata.Proofs.Codec.Verdict

/-!
# Decoding and encoding are steady

Walks along nodes come to one verdict from every report, since their steps do.
-/

namespace Schemata

namespace Walk

variable {codec : Codec} {α : Type}

/-- Refusing adds all issues at one place. -/
theorem refuse_run (issues : List Issue) (report : Report) :
    (refuse issues : Walk α) report = .error .invalid (issues.foldl Report.add report) := by
  induction issues generalizing report with
  | nil => rfl
  | cons issue rest ih => exact ih (report.add issue)

theorem path_foldl_add (issues : List Issue) (report : Report) :
    (issues.foldl Report.add report).path = report.path := by
  induction issues generalizing report with
  | nil => rfl
  | cons issue rest ih => exact ih (report.add issue)

theorem comesTo_refuse (issues : List Issue) :
    ComesTo (refuse issues : Walk α) (.error .invalid) := by
  intro report
  exact ⟨Stop.noConfusion, _, refuse_run issues report, path_foldl_add issues report⟩

/-- What a regular walk comes to does not depend on the report it starts from. -/
theorem Regular.steady {walk : Walk α} (regular : Regular codec walk) : Steady walk := by
  induction regular with
  | value found => exact (comesTo_pure found).steady
  | refusal issue more _ => exact (comesTo_refuse (issue :: more)).steady
  | fault fault => exact (comesTo_defect fault).steady
  | bind _ _ first later => exact first.bind later
  | within segment _ inside => exact (ComesTo.within segment inside).steady
  | optional _ inside => exact (ComesTo.optional inside).steady
  | attempt _ inside => exact steady_attempt inside

end Walk

namespace Codec

open Walk

variable {codec : Codec}

variable (codec) in
theorem steady_decodeWithin (levels : Nat) (node : Node) (wire : Json) :
    Steady (codec.decodeWithin levels node wire) :=
  (regular_decodeWithin codec levels node wire).steady

theorem steady_decodeMembers (levels : Nat) (wire : Json) (merged : Dict Value)
    (members : List Node) :
    Steady (codec.decodeMembers (codec.decodeWithin levels) wire merged members) :=
  (regular_decodeMembers (regular_decodeWithin codec levels) wire merged members).steady

variable (codec) in
theorem steady_encodeWithin (levels : Nat) (node : Node) (value : Value) :
    Steady (codec.encodeWithin levels node value) :=
  (regular_encodeWithin codec levels node value).steady

theorem steady_encodeMembers (levels : Nat) (value : Value) (merged : Dict Json)
    (members : List Node) :
    Steady (codec.encodeMembers (codec.encodeWithin levels) value merged members) :=
  (regular_encodeMembers (regular_encodeWithin codec levels) value merged members).steady

/-! ## Whole walks -/

theorem decode_eq_ok_iff {node : Node} {wire : Json} {value : Value} :
    codec.decode node wire = .ok value ↔
      (codec.decodeWithin codec.options.maxDepth node wire).verdict = .ok value :=
  conclude_eq_ok_iff (steady_decodeWithin codec _ node wire)

theorem encode_eq_ok_iff {node : Node} {value : Value} {wire : Json} :
    codec.encode node value = .ok wire ↔
      (codec.encodeWithin codec.options.maxDepth node value).verdict = .ok wire :=
  conclude_eq_ok_iff (steady_encodeWithin codec _ node value)

end Codec

end Schemata
