import Schemata.Proofs.Project.Registry

/-!
# Projects without faults of the setup

Accepted settings leave nothing unknown: whatever type a text stands for, data comes to a value
along it or is found invalid, and so does a value on its way out.
-/

namespace Schemata

/-- The result is a value, or it says what is wrong with the data.  It is no fault of the setup. -/
def Codec.IsOrderly {α : Type} (result : Except CodecError α) : Prop :=
  (∃ value, result = .ok value) ∨ ∃ failure, result = .error (.invalid failure)

namespace Codec

variable {codec : Codec} {node : Node}

theorem isOrderly_decode (settled : node.Everywhere (Settled codec.types)) (wire : Json) :
    IsOrderly (codec.decode node wire) :=
  (faultless_decodeWithin settled wire).conclude (steady_decodeWithin codec _ node wire)

theorem isOrderly_encode (settled : node.Everywhere (Settled codec.types)) {value : Value}
    (free : value.InstanceFree) : IsOrderly (codec.encode node value) :=
  (faultless_encodeWithin_of settled (.inr free)).conclude (steady_encodeWithin codec _ node value)

end Codec

theorem Node.IsDeclaredIn.settled {registry : TypeRegistry} {node : Node}
    (declared : node.IsDeclaredIn registry) : node.Everywhere (Codec.Settled registry) :=
  declared.imp fun _ => Codec.settled_of_settledIn

namespace Project

variable {settings : Settings} {project : Project}

/-- The texts of a project are read in the empty context. -/
theorem builds_parse (accepted : ofSettings settings = .ok project) (text : String) :
    Parse.Builds (Node.IsDeclaredIn project.registry) (project.parser.parse text) :=
  Parser.builds_parseIn (comesFrom_of_ofSettings accepted).closed _ ⟨rfl, rfl⟩ text

theorem isDeclaredIn_of_parse (accepted : ofSettings settings = .ok project) {text : String}
    {node : Node} (parsed : project.parser.parse text = .ok node) :
    node.IsDeclaredIn project.registry := by
  have built := builds_parse accepted text
  rw [parsed] at built
  exact built

/-- What data decodes to in a project has been read throughout, the moments in it in the registered
formats of their classes. -/
theorem everywhere_isRead_of_decode (accepted : ofSettings settings = .ok project) {text : String}
    {node : Node} (parsed : project.parser.parse text = .ok node) {coerce : Bool} {wire : Json}
    {value : Value} (decoded : (project.codec coerce).decode node wire = .ok value) :
    value.Everywhere <| Value.IsRead fun className format =>
      project.registry.dateTime? className = some format := by
  have declared : node.IsDeclaredIn (project.codec coerce).types :=
    isDeclaredIn_of_parse accepted parsed
  exact Codec.everywhere_isRead_of_decodes declared (Codec.decode_eq_ok_iff.mp decoded)

/-- In a project, no text of a type is turned down for a constant with an unknown case.  Data comes
to a value along every type, or is found invalid, and so does every value that data has come to
along some type of the project. -/
theorem isOrderly_of_ofSettings (accepted : ofSettings settings = .ok project) :
    (∀ text error, project.parser.parse text = .error error →
      error.cause.isUnknownCase = false) ∧
      ∀ text node, project.parser.parse text = .ok node → ∀ coerce,
        (∀ wire, Codec.IsOrderly ((project.codec coerce).decode node wire)) ∧
          ∀ text' node' coerce' wire value, project.parser.parse text' = .ok node' →
            (project.codec coerce').decode node' wire = .ok value →
              Codec.IsOrderly ((project.codec coerce).encode node value) := by
  refine ⟨fun text error stopped => ?_, fun text node parsed coerce => ⟨fun wire => ?_, ?_⟩⟩
  · have built := builds_parse accepted text
    rw [stopped] at built
    exact built
  · exact Codec.isOrderly_decode (isDeclaredIn_of_parse accepted parsed).settled wire
  · intro text' node' coerce' wire value parsed' decoded
    have read := everywhere_isRead_of_decode accepted parsed' decoded
    refine Codec.isOrderly_encode (isDeclaredIn_of_parse accepted parsed).settled ?_
    exact read.imp fun _ => Value.isInstance_of_isRead

/-- The statuses of accounts, one of which is the first one, and days. -/
def accountSettings : Settings where
  aliases := [("Initial", "Status::DEFAULT")]
  enums := [("Status", ["Active", "Suspended"])]
  dateTimes := [("Day", "[year]-[month]-[day]")]
  constants := [("Status::DEFAULT", .enumCase "Status" "Active")]

def accountProject : Project where
  settings := accountSettings
  registry :=
    { enums := [("Status", ["Active", "Suspended"])]
      dateTimes := [("Day", .custom "[year]-[month]-[day]")]
      constants := [("Status::DEFAULT", .enumCase "Status" "Active")]
      aliases := [("Initial", "Status::DEFAULT")] }

/-- An alias, a constant behind it, a wildcard and a type for moments. -/
theorem isOrderly_of_account :
    ofSettings accountSettings = .ok accountProject ∧
      ∃ node value, accountProject.parser.parse "Initial|Status::S*|Day" = .ok node ∧
        (accountProject.codec false).decode node (.string "Suspended") = .ok value ∧
          Codec.IsOrderly ((accountProject.codec true).encode node value) ∧
            Codec.IsOrderly ((accountProject.codec true).decode node .null) := by
  have accepted : ofSettings accountSettings = .ok accountProject := rfl
  obtain ⟨_, orderly⟩ := isOrderly_of_ofSettings accepted
  have taken : ((accountProject.parser.parse "Initial|Status::S*|Day").toOption.bind fun node =>
      ((accountProject.codec false).decode node (.string "Suspended")).toOption).isSome = true := by
    decide +kernel
  obtain ⟨value, found⟩ := Option.isSome_iff_exists.mp taken
  obtain ⟨node, read, decoded⟩ := Option.bind_eq_some_iff.mp found
  have parsed := Except.toOption_eq_some_iff.mp read
  have decoded := Except.toOption_eq_some_iff.mp decoded
  obtain ⟨decodes, encodes⟩ := orderly _ node parsed true
  exact ⟨accepted, node, value, parsed, decoded,
    encodes _ node false _ value parsed decoded, decodes .null⟩

end Project

end Schemata
