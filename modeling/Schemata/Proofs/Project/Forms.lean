import Schemata.CommandLine.Report
import Schemata.Proofs.Project.Setup

/-!
# JSON forms of the values in a project

What data decodes to in a project has a JSON form exactly if RFC 3339 can write every moment in it.
Formats of the settings can read other moments, and a value with one of them is shown as null.
-/

namespace Schemata

namespace Project

variable {settings : Settings} {project : Project}

/-- In a project, a value has a JSON form exactly if RFC 3339 can write every moment in it, and it
is shown as null if not.  Every value has one if the formats of the settings read no other
moments. -/
theorem toJson?_of_decode (accepted : ofSettings settings = .ok project) {text : String}
    {node : Node} (parsed : project.parser.parse text = .ok node) {coerce : Bool} {wire : Json}
    {value : Value} (decoded : (project.codec coerce).decode node wire = .ok value) :
    ((∃ form, value.toJson? = some form) ↔ value.HasRfc3339Moments) ∧
      (value.toJson?.getD .null = .null ↔ value = .null ∨ ¬ value.HasRfc3339Moments) ∧
        ((∀ name setting, (name, setting) ∈ settings.dateTimes → ∀ text moment,
            (DateTimeFormat.ofSetting setting).read text = .ok moment → moment.IsRfc3339) →
          ∃ form, value.toJson? = some form) := by
  have read := everywhere_isRead_of_decode accepted parsed decoded
  have printable := Value.exists_toJson?_iff_of_isRead read
  refine ⟨printable, ?_, fun only => ?_⟩
  · rw [Value.getD_toJson?_eq_null_iff, printable]
  · refine Value.exists_toJson?_iff.mpr (read.imp fun part => Value.isPrintable_of_isRead ?_)
    intro name format text moment registered success
    obtain ⟨setting, among, rfl⟩ :=
      (comesFrom_of_ofSettings accepted).formats name format registered
    exact only name setting among text moment success

/-- Moments of RFC 3339 only. -/
def instantSettings : Settings where
  dateTimes := [("Instant", "rfc3339")]

def instantProject : Project where
  settings := instantSettings
  registry := { dateTimes := [("Instant", .rfc3339)] }

theorem toJson?_of_instants :
    ofSettings instantSettings = .ok instantProject ∧
      ∃ node value, instantProject.parser.parse "?Instant" = .ok node ∧
        (instantProject.codec false).decode node (.string "2024-05-01T10:30:00Z") = .ok value ∧
          (∀ name setting, (name, setting) ∈ instantSettings.dateTimes → ∀ text moment,
            (DateTimeFormat.ofSetting setting).read text = .ok moment → moment.IsRfc3339) ∧
            (∃ form, value.toJson? = some form) ∧ value.HasRfc3339Moments := by
  have accepted : ofSettings instantSettings = .ok instantProject := rfl
  have taken : ((instantProject.parser.parse "?Instant").toOption.bind fun node =>
      ((instantProject.codec false).decode node
        (.string "2024-05-01T10:30:00Z")).toOption).isSome = true := by
    decide +kernel
  obtain ⟨value, found⟩ := Option.isSome_iff_exists.mp taken
  obtain ⟨node, read, decoded⟩ := Option.bind_eq_some_iff.mp found
  have parsed := Except.toOption_eq_some_iff.mp read
  have decoded := Except.toOption_eq_some_iff.mp decoded
  have only : ∀ name setting, (name, setting) ∈ instantSettings.dateTimes → ∀ text moment,
      (DateTimeFormat.ofSetting setting).read text = .ok moment → moment.IsRfc3339 := by
    intro name setting member text moment success
    obtain ⟨rfl, rfl⟩ := Prod.mk.inj (List.mem_singleton.mp member)
    have format : DateTimeFormat.ofSetting "rfc3339" = .rfc3339 := rfl
    rw [format] at success
    exact Moment.Rfc3339.isRfc3339_of_read success
  obtain ⟨printable, _, always⟩ := toJson?_of_decode accepted parsed decoded
  exact ⟨accepted, node, value, parsed, decoded, only, always only,
    printable.mp (always only)⟩

/-- Days, which have a year of any sign. -/
def daySettings : Settings where
  dateTimes := [("Day", "[year]-[month]-[day]")]

def dayProject : Project where
  settings := daySettings
  registry := { dateTimes := [("Day", .custom "[year]-[month]-[day]")] }

/-- The fifteenth of March in the year 45 before our era. -/
def ides : Moment :=
  { unixNanos := -63549360000000000000, offset := 0 }

/-- The day is read, but RFC 3339 has no text for it, and what is shown is what is shown for
null. -/
theorem ides_without_form :
    ofSettings daySettings = .ok dayProject ∧
      dayProject.parser.parse "Day" = .ok (.dateTime "Day" (.custom "[year]-[month]-[day]")) ∧
        (dayProject.codec false).decode (.dateTime "Day" (.custom "[year]-[month]-[day]"))
            (.string "-0044-03-15") = .ok (.dateTime "Day" ides) ∧
          (Value.dateTime "Day" ides).toJson? = none ∧
            ∀ call : CommandLine.Invocation, call.style = .text →
              call.parsed (.dateTime "Day" ides) = call.parsed .null := by
  have read : DateTimeFormat.read "-0044-03-15" (.custom "[year]-[month]-[day]") = .ok ides :=
    Except.toOption_eq_some_iff.mp (by decide +kernel)
  have unwritten : (Value.dateTime "Day" ides).toJson? = none := by decide +kernel
  have taken : (dayProject.codec false).Decodes (127 + 1)
      (.dateTime "Day" (.custom "[year]-[month]-[day]")) (.string "-0044-03-15")
      (.dateTime "Day" ides) :=
    Codec.decodes_dateTime_iff.mpr ⟨_, ides, rfl, read, rfl⟩
  refine ⟨rfl, rfl, Codec.decode_eq_ok_iff.mpr taken, unwritten, fun call text => ?_⟩
  have null : Value.null.toJson? = some .null := rfl
  simp only [CommandLine.Invocation.parsed, text, unwritten, null, Option.getD_none,
    Option.getD_some]

end Project

end Schemata
