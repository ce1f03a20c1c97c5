import Schemata.Proofs.Codec.Success
import Schemata.Proofs.Moment.Formats

/-!
# Moments along unions

The value of a moment keeps the class of the member that read it, but a union does not look at the
class when it writes the moment: the first member whose format has a text for it writes that text.
-/

namespace Schemata

namespace Node

/-- A leaf for moments, or null. -/
def IsMomentLeaf : Node → Prop
  | .dateTime .. => True
  | .builtIn .null => True
  | _ => False

def momentClass? : Node → Option String
  | .dateTime className _ => some className
  | _ => none

def momentText? (moment : Moment) : Node → Option String
  | .dateTime _ format => (format.write moment).toOption
  | _ => none

end Node

namespace Codec

open Walk

variable {codec : Codec} {levels : Nat} {node : Node} {members : List Node}
  {discriminator : Option Discriminator} {wire : Json} {className : String} {moment : Moment}

/-! ## Leaves -/

theorem dateTime_of_decodes (leaf : node.IsMomentLeaf)
    (decoded : codec.Decodes levels node wire (.dateTime className moment)) :
    0 < levels ∧ ∃ format text, node = .dateTime className format ∧
      format.read text = .ok moment := by
  cases levels with
  | zero => exact absurd decoded not_decodes_zero
  | succ levels =>
      cases node with
      | dateTime other format =>
          obtain ⟨text, found, rfl, read, same⟩ := decodes_dateTime_iff.mp decoded
          cases same
          exact ⟨levels.succ_pos, format, text, rfl, read⟩
      | builtIn kind =>
          cases kind with
          | null =>
              have taken := decodes_builtIn_iff.mp decoded
              cases wire <;> simp [primitive?, ownPrimitive?, coercedPrimitive?] at taken
          | _ => exact leaf.elim
      | _ => exact leaf.elim

theorem refuses_of_unread {format : DateTimeFormat} {text : String}
    (unread : (format.read text).toOption = none) :
    codec.Refuses (levels + 1) (.dateTime className format) (.string text) := by
  rw [Refuses, decodeWithin_of_not_ref rfl, decodeShape, decodeMoment]
  cases read : format.read text with
  | ok moment =>
      rw [read] at unread
      cases unread
  | error error => rfl

/-- A leaf writes the text that it has for a moment, whatever class the moment is of. -/
theorem verdict_encode_moment (leaf : node.IsMomentLeaf) :
    (codec.encodeWithin (levels + 1) node (.dateTime className moment)).verdict =
      match node.momentText? moment with
      | some text => .ok (.string text)
      | none => .error .invalid := by
  cases node with
  | dateTime other format =>
      rw [encodeWithin_of_not_ref rfl, encodeShape, encodeMoment, Node.momentText?]
      cases format.write moment with
      | ok text => rfl
      | error error => rfl
  | builtIn kind =>
      cases kind with
      | null => rfl
      | _ => exact leaf.elim
  | _ => exact leaf.elim

theorem encodes_moment_iff (leaf : node.IsMomentLeaf) :
    codec.Encodes (levels + 1) node (.dateTime className moment) wire ↔
      ∃ text, node.momentText? moment = some text ∧ wire = .string text := by
  rw [Encodes, verdict_encode_moment leaf]
  cases node.momentText? moment with
  | none => simp
  | some text => simp [eq_comm]

theorem turnsDown_moment_iff (leaf : node.IsMomentLeaf) :
    codec.TurnsDown (levels + 1) node (.dateTime className moment) ↔
      node.momentText? moment = none := by
  rw [TurnsDown, verdict_encode_moment leaf]
  cases node.momentText? moment with
  | none => simp
  | some text => simp

/-! ## Unions -/

/-- A moment comes from a member of its class that reads it. -/
theorem exists_member_of_decodes (leaves : ∀ member ∈ members, member.IsMomentLeaf)
    (decoded : codec.Decodes levels (.union members discriminator) wire
      (.dateTime className moment)) :
    1 < levels ∧ ∃ format text, .dateTime className format ∈ members ∧
      format.read text = .ok moment := by
  cases levels with
  | zero => exact absurd decoded not_decodes_zero
  | succ levels =>
      have taken : ∃ member ∈ members,
          codec.Decodes levels member wire (.dateTime className moment) := by
        cases discriminator with
        | none =>
            obtain ⟨before, member, after, rfl, _, taken⟩ := decodes_union_iff.mp decoded
            exact ⟨member, List.mem_append_right _ List.mem_cons_self, taken⟩
        | some discriminator =>
            obtain ⟨_, _, arm, member, _, _, _, present, taken⟩ :=
              decodes_discriminated_iff.mp decoded
            exact ⟨member, List.mem_of_getElem? present, taken⟩
      obtain ⟨member, among, taken⟩ := taken
      obtain ⟨deep, format, text, rfl, read⟩ := dateTime_of_decodes (leaves member among) taken
      exact ⟨Nat.succ_lt_succ deep, format, text, among, read⟩

/-- A union writes the text of the first member that has one. -/
theorem encodes_moments_iff (leaves : ∀ member ∈ members, member.IsMomentLeaf) :
    codec.Encodes (levels + 1 + 1) (.union members discriminator) (.dateTime className moment)
        wire ↔
      ∃ text, members.findSome? (Node.momentText? moment) = some text ∧ wire = .string text := by
  have unselected : discriminator.bind (armOf? members · (.dateTime className moment)) = none := by
    cases discriminator <;> rfl
  simp only [encodes_unselected_iff unselected, List.findSome?_eq_some_iff]
  constructor
  · rintro ⟨before, member, after, rfl, turned, encoded⟩
    obtain ⟨text, found, same⟩ := (encodes_moment_iff (leaves member (by simp))).mp encoded
    refine ⟨text, ⟨before, member, after, rfl, found, fun other ahead => ?_⟩, same⟩
    exact (turnsDown_moment_iff (leaves other (by simp [ahead]))).mp (turned other ahead)
  · rintro ⟨text, ⟨before, member, after, rfl, found, none_ahead⟩, same⟩
    refine ⟨before, member, after, rfl, fun other ahead => ?_, ?_⟩
    · exact (turnsDown_moment_iff (leaves other (by simp [ahead]))).mpr (none_ahead other ahead)
    · exact (encodes_moment_iff (leaves member (by simp))).mpr ⟨text, found, same⟩

/-- A member is known by its class where the classes of a union are distinct. -/
theorem format_eq_of_mem (distinct : (members.filterMap Node.momentClass?).Nodup)
    {format other : DateTimeFormat} (among : .dateTime className format ∈ members)
    (among' : .dateTime className other ∈ members) : format = other := by
  induction members with
  | nil => cases among
  | cons member rest ih =>
      have fresh {found : DateTimeFormat} (ahead : member = .dateTime className found)
          {later : DateTimeFormat} (behind : .dateTime className later ∈ rest) : False := by
        subst ahead
        exact (List.nodup_cons.mp distinct).1 (List.mem_filterMap.mpr ⟨_, behind, rfl⟩)
      rcases List.mem_cons.mp among with here | behind
      · rcases List.mem_cons.mp among' with here' | behind'
        · cases here.trans here'.symm
          rfl
        · exact (fresh here.symm behind').elim
      · rcases List.mem_cons.mp among' with here' | behind'
        · exact (fresh here'.symm behind).elim
        · refine ih ?_ behind behind'
          exact distinct.sublist ((List.sublist_cons_self member rest).filterMap _)

/-- A moment that a union of moments of distinct classes reads is written again, in the text of the
first member that can write it.  That is the text of the member of its class exactly if the first
member that can write it has the same text, as it does if no member ahead can write it. -/
theorem encode_moment_of_decode (leaves : ∀ member ∈ members, member.IsMomentLeaf)
    (distinct : (members.filterMap Node.momentClass?).Nodup)
    (decoded : codec.decode (.union members discriminator) wire =
      .ok (.dateTime className moment)) :
    ∃ format written, .dateTime className format ∈ members ∧
      (∀ other, .dateTime className other ∈ members → other = format) ∧
        format.write moment = .ok written ∧
          (∃ output, codec.encode (.union members discriminator) (.dateTime className moment) =
            .ok (.string output)) ∧
            (codec.encode (.union members discriminator) (.dateTime className moment) =
                .ok (.string written) ↔
              members.findSome? (Node.momentText? moment) = some written) ∧
              ∀ before after, members = before ++ .dateTime className format :: after →
                (∀ other ∈ before, other.momentText? moment = none) →
                  codec.encode (.union members discriminator) (.dateTime className moment) =
                    .ok (.string written) := by
  have taken := decode_eq_ok_iff.mp decoded
  obtain ⟨deep, format, text, among, read⟩ := exists_member_of_decodes leaves taken
  obtain ⟨written, success⟩ := DateTimeFormat.exists_write_of_read read
  have own : Node.momentText? moment (.dateTime className format) = some written := by
    rw [Node.momentText?, success]
    rfl
  obtain ⟨output, first⟩ : ∃ output, members.findSome? (Node.momentText? moment) = some output := by
    rw [← Option.isSome_iff_exists, List.findSome?_isSome_iff]
    exact ⟨_, among, by rw [own]; rfl⟩
  obtain ⟨levels, depth⟩ := Nat.exists_eq_add_of_le' deep
  have encodes (written : String) : codec.encode (.union members discriminator)
      (.dateTime className moment) = .ok (.string written) ↔
        members.findSome? (Node.momentText? moment) = some written := by
    rw [encode_eq_ok_iff, depth]
    refine (encodes_moments_iff leaves).trans ?_
    simp [eq_comm]
  refine ⟨format, written, among, fun other among' => format_eq_of_mem distinct among' among,
    success, ⟨output, (encodes output).mpr first⟩, encodes written, ?_⟩
  rintro before after rfl none_ahead
  refine (encodes written).mpr (List.findSome?_eq_some_iff.mpr ?_)
  exact ⟨before, _, after, rfl, own, none_ahead⟩

/-- Days, whose format has neither a time of day nor an offset, and instants. -/
def day : Node :=
  .dateTime "Day" (.custom "[year]-[month]-[day]")

def instant : Node :=
  .dateTime "Instant" .rfc3339

/-- Half past ten on the first of May 2024, and its text. -/
def mayMorning : Moment :=
  { unixNanos := 1714559400000000000, offset := 0 }

def mayText : String :=
  "2024-05-01T10:30:00Z"

theorem read_mayText : DateTimeFormat.rfc3339.read mayText = .ok mayMorning :=
  Except.toOption_eq_some_iff.mp (by decide +kernel)

theorem write_mayMorning : DateTimeFormat.rfc3339.write mayMorning = .ok mayText :=
  Except.toOption_eq_some_iff.mp (by decide +kernel)

theorem decodes_instant : codec.Decodes (levels + 1) instant (.string mayText)
    (.dateTime "Instant" mayMorning) :=
  decodes_dateTime_iff.mpr ⟨mayText, mayMorning, rfl, read_mayText, rfl⟩

theorem encode_moment_of_instant :
    (∀ member ∈ [instant, day], member.IsMomentLeaf) ∧
      ([instant, day].filterMap Node.momentClass?).Nodup ∧
        ({ types := {} } : Codec).decode (.union [instant, day] none) (.string mayText) =
          .ok (.dateTime "Instant" mayMorning) ∧
          ({ types := {} } : Codec).encode (.union [instant, day] none)
            (.dateTime "Instant" mayMorning) = .ok (.string mayText) := by
  have leaves : ∀ member ∈ [instant, day], member.IsMomentLeaf := by
    simp [instant, day, Node.IsMomentLeaf]
  have distinct : ([instant, day].filterMap Node.momentClass?).Nodup := by decide
  have taken : ({ types := {} } : Codec).Decodes (126 + 1 + 1) (.union [instant, day] none)
      (.string mayText) (.dateTime "Instant" mayMorning) :=
    decodes_union_iff.mpr ⟨[], instant, [day], rfl, by simp, decodes_instant⟩
  have decoded := decode_eq_ok_iff.mpr taken
  obtain ⟨format, written, _, unique, success, _, _, leads⟩ :=
    encode_moment_of_decode leaves distinct decoded
  obtain rfl := unique .rfc3339 (by simp [instant])
  obtain rfl := Except.ok.inj (success.symm.trans write_mayMorning)
  exact ⟨leaves, distinct, decoded, leads [] [day] rfl (by simp)⟩

/-- Days ahead of instants take no text of an instant, but cut off the time of day of one on its way
out. -/
theorem instant_loses_time :
    ({ types := {} } : Codec).decode (.union [day, instant] none) (.string mayText) =
        .ok (.dateTime "Instant" mayMorning) ∧
      DateTimeFormat.rfc3339.write mayMorning = .ok mayText ∧
        ({ types := {} } : Codec).encode (.union [day, instant] none)
          (.dateTime "Instant" mayMorning) = .ok (.string "2024-05-01") ∧
          "2024-05-01" ≠ mayText := by
  refine ⟨decode_eq_ok_iff.mpr ?_, write_mayMorning, encode_eq_ok_iff.mpr ?_, by decide⟩
  · have refused : ({ types := {} } : Codec).Refuses (126 + 1) day (.string mayText) := by
      have unread : (DateTimeFormat.read mayText (.custom "[year]-[month]-[day]")).toOption =
          none := by decide +kernel
      exact refuses_of_unread unread
    have taken : ({ types := {} } : Codec).Decodes (126 + 1 + 1) (.union [day, instant] none)
        (.string mayText) (.dateTime "Instant" mayMorning) :=
      decodes_union_iff.mpr ⟨[day], instant, [], rfl, by simpa using refused, decodes_instant⟩
    exact taken
  · have written : ({ types := {} } : Codec).Encodes (126 + 1 + 1) (.union [day, instant] none)
        (.dateTime "Instant" mayMorning) (.string "2024-05-01") := by
      have text : day.momentText? mayMorning = some "2024-05-01" := by decide +kernel
      refine (encodes_moments_iff (by simp [instant, day, Node.IsMomentLeaf])).mpr
        ⟨"2024-05-01", ?_, rfl⟩
      rw [List.findSome?_cons, text]
    exact written

end Codec

end Schemata
