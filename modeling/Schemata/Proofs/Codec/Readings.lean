import Schemata.Proofs.Codec.Dispatch
import Schemata.Proofs.Codec.RoundTrip

/-!
# Readings of data

Without coercion, a value that a data node reads mirrors the data that it is read from.  So
whichever data node encodes the value writes its JSON form, and would have decoded the data as well.
-/

namespace Schemata

open List (Forall₂)

section

variable {α β γ δ : Type} {first : α → β → Prop} {second : β → γ → Prop} {lefts : List α}
  {middles : List β} {rights : List γ}

/-- What follows from two steps at every place holds between the ends of the second step. -/
theorem forall₂_of_steps {related : β → γ → Prop} (one : Forall₂ first lefts middles)
    (two : Forall₂ second middles rights)
    (each : ∀ left middle right, first left middle → second middle right →
      related middle right) : Forall₂ related middles rights := by
  induction one generalizing rights with
  | nil =>
      cases two
      exact .nil
  | cons here _ ih =>
      cases two with
      | cons next later => exact .cons (each _ _ _ here next) (ih later)

/-- What two steps at every place lead to makes a list of its own. -/
theorem exists_forall₂_of_steps {related : α → δ → Prop} (one : Forall₂ first lefts middles)
    (two : Forall₂ second middles rights)
    (each : ∀ left middle right, first left middle → second middle right →
      ∃ found, related left found) : ∃ founds, Forall₂ related lefts founds := by
  induction one generalizing rights with
  | nil => exact ⟨[], .nil⟩
  | cons here _ ih =>
      cases two with
      | cons next later =>
          obtain ⟨found, related⟩ := each _ _ _ here next
          obtain ⟨founds, others⟩ := ih later
          exact ⟨found :: founds, .cons related others⟩

end

namespace Node

/-- The root of a built-in, a literal, an enum, a list or a record. -/
def IsDataRoot : Node → Prop
  | .builtIn _ | .literal _ | .enumeration _ | .list _ | .record _ => True
  | _ => False

/-- A node of built-ins, literals, enums, lists and records. -/
def IsData : Node → Prop :=
  Everywhere IsDataRoot

end Node

namespace Codec

open Walk

variable {codec : Codec} {levels : Nat} {node : Node} {wire written : Json} {value : Value}

/-! ## What a value says about data -/

/-- Some data node reads the value from the data. -/
def Reads (codec : Codec) (wire : Json) (value : Value) : Prop :=
  ∃ levels node, node.IsData ∧ codec.Decodes levels node wire value

/-- The value has the form of the data, and its parts are read from the parts of the data. -/
inductive Mirrors (reads : Json → Value → Prop) : Json → Value → Prop where
  | null : Mirrors reads .null .null
  | bool (value : Bool) : Mirrors reads (.bool value) (.bool value)
  | int {number : Json.Number} {value : Int64} (word : number.toInt64? = some value) :
      Mirrors reads (.number number) (.int value)
  | float {number : Json.Number} {value : Binary64}
      (equal : number.toBinary64.numEq value = true) :
      Mirrors reads (.number number) (.float value)
  | string (text : String) : Mirrors reads (.string text) (.string text)
  | enumCase (enumeration case : String) :
      Mirrors reads (.string case) (.enumCase enumeration case)
  | list {items : List Json} {values : List Value} (each : Forall₂ reads items values) :
      Mirrors reads (.array items) (.list values)
  | map {members : List (String × Json)} {entries : List (String × Value)}
      (each : Forall₂ (fun member entry => member.1 = entry.1 ∧ reads member.2 entry.2)
        members entries) : Mirrors reads (.object members) (.map entries)

/-- Every number is equal to its double. -/
theorem numEq_toBinary64 (number : Json.Number) :
    number.toBinary64.numEq number.toBinary64 = true :=
  Binary64.numEq_self_of_isFinite number.isFinite_toBinary64

/-- Data that is taken as it is is read. -/
theorem reads_ofJson (codec : Codec) (wire : Json) : codec.Reads wire (.ofJson wire) :=
  ⟨1, .builtIn .mixed, .leaf trivial rfl, decodes_builtIn_iff.mpr rfl⟩

/-- The value of data that is taken as it is mirrors the data. -/
theorem mirrors_ofJson (codec : Codec) (wire : Json) : Mirrors codec.Reads wire (.ofJson wire) := by
  cases wire with
  | null => exact .null
  | bool value => exact .bool value
  | string text => exact .string text
  | number number =>
      rw [Value.ofJson, Value.ofNumber]
      cases word : number.toInt64? with
      | some value => exact .int word
      | none => exact .float (numEq_toBinary64 number)
  | array items =>
      have each : Forall₂ codec.Reads items (Value.ofJsonItems items) := by
        induction items with
        | nil => exact .nil
        | cons item rest ih => exact .cons (reads_ofJson codec item) ih
      exact .list each
  | object members =>
      have each : Forall₂ (fun member entry => member.1 = entry.1 ∧ codec.Reads member.2 entry.2)
          members (Value.ofJsonMembers members) := by
        induction members with
        | nil => exact .nil
        | cons member rest ih => exact .cons ⟨rfl, reads_ofJson codec member.2⟩ ih
      exact .map each

variable (strict : codec.options.coercePrimitives = false)

include strict

/-- Without coercion, data is read along a built-in of its own kind only. -/
theorem primitive?_of_strict (kind : BuiltIn) (wire : Json) :
    codec.primitive? kind wire = ownPrimitive? kind wire := by
  rw [primitive?, strict]
  cases ownPrimitive? kind wire with
  | some value => rfl
  | none => rfl

/-- What stands for a literal is mirrored by the value of the literal. -/
theorem mirrors_of_isLiteral {literal : Literal} (taken : codec.isLiteral literal wire = true) :
    Mirrors codec.Reads wire literal.toValue := by
  unfold isLiteral at taken
  rw [strict] at taken
  dsimp only at taken
  split at taken
  · obtain rfl := eq_of_beq taken
    exact .bool _
  · cases taken
  · exact .int (eq_of_beq taken)
  · cases taken
  · exact .float taken
  · cases taken
  · obtain rfl := eq_of_beq taken
    exact .string _
  · cases taken
  next enumeration _ _ =>
    obtain rfl := eq_of_beq taken
    exact .enumCase enumeration _
  · cases taken

/-- What a data node reads mirrors the data. -/
theorem mirrors_of_reads (reads : codec.Reads wire value) : Mirrors codec.Reads wire value := by
  obtain ⟨levels, node, data, decoded⟩ := reads
  cases levels with
  | zero => exact absurd decoded not_decodes_zero
  | succ levels =>
      cases node with
      | builtIn kind =>
          have own := decodes_builtIn_iff.mp decoded
          rw [primitive?_of_strict strict] at own
          unfold ownPrimitive? at own
          split at own
          · obtain rfl := Option.some.inj own
            exact mirrors_ofJson codec wire
          · obtain rfl := Option.some.inj own
            exact .null
          · obtain rfl := Option.some.inj own
            exact .string _
          · obtain rfl := Option.some.inj own
            exact .bool _
          · obtain ⟨word, found, rfl⟩ := Option.map_eq_some_iff.mp own
            exact .int found
          next number =>
            obtain rfl := Option.some.inj own
            exact .float (numEq_toBinary64 number)
          · cases own
      | literal literal =>
          obtain ⟨taken, rfl⟩ := decodes_literal_iff.mp decoded
          exact mirrors_of_isLiteral strict taken
      | enumeration name =>
          obtain ⟨case, cases, rfl, _, _, rfl⟩ := decodes_enumeration_iff.mp decoded
          exact .enumCase name case
      | list item =>
          obtain ⟨items, values, rfl, rfl, each⟩ := decodes_list_iff.mp decoded
          have inside := data.of_mem_children (List.mem_singleton_self item)
          exact .list (each.imp fun _ _ read => ⟨levels, item, inside, read⟩)
      | record item =>
          obtain ⟨members, entries, rfl, rfl, each⟩ := decodes_record_iff.mp decoded
          have inside := data.of_mem_children (List.mem_singleton_self item)
          exact .map (each.imp fun _ _ pair => ⟨pair.1, levels, item, inside, pair.2⟩)
      | _ => exact data.here.elim

/-! ## Encoding what was read -/

omit strict in
/-- What data decodes to along a data node comes back along the node. -/
theorem roundTrips_of_data (data : node.IsData)
    (decoded : codec.Decodes levels node wire value) : codec.RoundTrips levels node value := by
  induction levels generalizing node wire value with
  | zero => exact absurd decoded not_decodes_zero
  | succ levels ih =>
      cases node with
      | builtIn kind => exact roundTrips_builtIn decoded
      | literal literal =>
          have taken := (decodes_literal_iff.mp decoded).1
          exact roundTrips_literal (isFinite_of_isLiteral taken) decoded
      | enumeration name => exact roundTrips_enumeration decoded
      | list item =>
          have inside := data.of_mem_children (List.mem_singleton_self item)
          exact roundTrips_list (fun _ _ decoded => ih inside decoded) decoded
      | record item =>
          have inside := data.of_mem_children (List.mem_singleton_self item)
          exact roundTrips_record (fun _ _ decoded => ih inside decoded) decoded
      | _ => exact data.here.elim

/-- A literal that stands for a value that was read has a JSON form. -/
theorem isFinite_of_isLiteralValue {literal : Literal} (reads : codec.Reads wire value)
    (stands : isLiteralValue literal value = true) : literal.IsFinite := by
  cases literal with
  | float double =>
      have mirrors := mirrors_of_reads strict reads
      cases mirrors with
      | @float number _ equal =>
          have known := Binary64.isFinite_of_numEq equal number.isFinite_toBinary64
          have equal : double.numEq _ = true := stands
          rw [Binary64.numEq_comm] at equal
          exact Binary64.isFinite_of_numEq equal known
      | _ => cases stands
  | bool | int | string | enumCase => trivial

/-- Whichever data node encodes a value that was read, it writes the JSON form of the value. -/
theorem showsAs_of_reads (data : node.IsData) (reads : codec.Reads wire value)
    (encoded : codec.Encodes levels node value written) : value.ShowsAs written := by
  induction levels generalizing node wire value written with
  | zero => exact absurd encoded not_encodes_zero
  | succ levels ih =>
      cases node with
      | builtIn kind =>
          exact Value.showsAs_of_toJson? (toJson?_of_encodePrimitive?
            (encodes_builtIn_iff.mp encoded))
      | literal literal =>
          obtain ⟨stands, rfl⟩ := encodes_literal_iff.mp encoded
          exact showsAs_of_isLiteralValue (isFinite_of_isLiteralValue strict reads stands) stands
      | enumeration name =>
          obtain ⟨case, _, rfl, _, _, rfl⟩ := encodes_enumeration_iff.mp encoded
          exact Value.showsAs_of_toJson? rfl
      | list item =>
          have inside := data.of_mem_children (List.mem_singleton_self item)
          obtain ⟨values, written, rfl, rfl, each⟩ := encodes_list_iff.mp encoded
          cases mirrors_of_reads strict reads with
          | list items =>
              refine Value.showsAs_list (forall₂_of_steps items each ?_)
              exact fun _ _ _ read encoded => ih inside read encoded
      | record item =>
          have inside := data.of_mem_children (List.mem_singleton_self item)
          obtain ⟨entries, members, fields, rfl, each⟩ := encodes_record_iff.mp encoded
          cases mirrors_of_reads strict reads with
          | map found =>
              obtain rfl := Option.some.inj fields
              refine Value.showsAs_entries (Or.inl rfl) (forall₂_of_steps found each ?_)
              exact fun _ _ _ read encoded => ⟨encoded.1, ih inside read.2 encoded.2⟩
          | _ => cases fields
      | _ => exact data.here.elim

/-! ## Decoding again -/

/-- A built-in that encodes a value that was read decodes the data. -/
theorem exists_primitive?_of_encodePrimitive? {kind : BuiltIn} (reads : codec.Reads wire value)
    (encoded : encodePrimitive? kind value = some written) :
    ∃ found, codec.primitive? kind wire = some found := by
  have mirrors := mirrors_of_reads strict reads
  rw [primitive?_of_strict strict]
  unfold encodePrimitive? at encoded
  split at encoded
  · exact ⟨_, rfl⟩
  · cases mirrors
    exact ⟨_, rfl⟩
  · cases mirrors
    exact ⟨_, rfl⟩
  · cases mirrors
    exact ⟨_, rfl⟩
  · cases mirrors with
    | int word => exact ⟨_, Option.map_eq_some_iff.mpr ⟨_, word, rfl⟩⟩
  · cases mirrors
    exact ⟨_, rfl⟩
  · cases mirrors
    exact ⟨_, rfl⟩
  · cases encoded

/-- A literal that encodes a value that was read decodes the data. -/
theorem isLiteral_of_isLiteralValue {literal : Literal} (reads : codec.Reads wire value)
    (stands : isLiteralValue literal value = true) : codec.isLiteral literal wire = true := by
  have mirrors := mirrors_of_reads strict reads
  unfold isLiteralValue at stands
  split at stands
  · obtain rfl := eq_of_beq stands
    cases mirrors
    exact beq_self_eq_true _
  · obtain rfl := eq_of_beq stands
    cases mirrors with
    | int word => exact beq_iff_eq.mpr word
  next left right =>
    cases mirrors with
    | float equal =>
        rw [Binary64.numEq_comm] at stands
        exact Binary64.numEq_trans equal stands
  · obtain rfl := eq_of_beq stands
    cases mirrors
    exact beq_self_eq_true _
  · obtain ⟨_, same⟩ := Bool.and_eq_true_iff.mp stands
    obtain rfl := eq_of_beq same
    cases mirrors
    exact beq_self_eq_true _
  · cases stands

/-- Whichever data node encodes a value that was read would have decoded the data. -/
theorem exists_decodes_of_encodes (data : node.IsData) (reads : codec.Reads wire value)
    (encoded : codec.Encodes levels node value written) :
    ∃ found, codec.Decodes levels node wire found := by
  induction levels generalizing node wire value written with
  | zero => exact absurd encoded not_encodes_zero
  | succ levels ih =>
      cases node with
      | builtIn kind =>
          obtain ⟨found, read⟩ :=
            exists_primitive?_of_encodePrimitive? strict reads (encodes_builtIn_iff.mp encoded)
          exact ⟨found, decodes_builtIn_iff.mpr read⟩
      | literal literal =>
          obtain ⟨stands, rfl⟩ := encodes_literal_iff.mp encoded
          exact ⟨_, decodes_literal_iff.mpr ⟨isLiteral_of_isLiteralValue strict reads stands, rfl⟩⟩
      | enumeration name =>
          obtain ⟨case, cases, rfl, registered, known, rfl⟩ := encodes_enumeration_iff.mp encoded
          cases mirrors_of_reads strict reads
          exact ⟨_, decodes_enumeration_iff.mpr ⟨case, cases, rfl, registered, known, rfl⟩⟩
      | list item =>
          have inside := data.of_mem_children (List.mem_singleton_self item)
          obtain ⟨values, written, rfl, rfl, each⟩ := encodes_list_iff.mp encoded
          cases mirrors_of_reads strict reads with
          | list items =>
              obtain ⟨founds, decoded⟩ := exists_forall₂_of_steps items each
                fun _ _ _ read encoded => ih inside read encoded
              exact ⟨.list founds, decodes_list_iff.mpr ⟨_, founds, rfl, rfl, decoded⟩⟩
      | record item =>
          have inside := data.of_mem_children (List.mem_singleton_self item)
          obtain ⟨entries, members, fields, rfl, each⟩ := encodes_record_iff.mp encoded
          cases mirrors_of_reads strict reads with
          | map found =>
              obtain rfl := Option.some.inj fields
              have again (member : String × Json) (entry : String × Value) (other : String × Json)
                  (read : member.1 = entry.1 ∧ codec.Reads member.2 entry.2)
                  (encoded : entry.1 = other.1 ∧ codec.Encodes levels item entry.2 other.2) :
                  ∃ found : String × Value,
                    member.1 = found.1 ∧ codec.Decodes levels item member.2 found.2 := by
                obtain ⟨found, decoded⟩ := ih inside read.2 encoded.2
                exact ⟨(member.1, found), rfl, decoded⟩
              obtain ⟨founds, decoded⟩ := exists_forall₂_of_steps found each again
              exact ⟨.map founds, decodes_record_iff.mpr ⟨_, founds, rfl, rfl, decoded⟩⟩
          | _ => cases fields
      | _ => exact data.here.elim

end Codec

end Schemata
