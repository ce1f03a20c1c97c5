import Schemata.Parser.Grammar
import Schemata.Proofs.Node.WellFormed
import Schemata.Proofs.Parser.SideBySide

/-!
# The two sides of a class

What a class with parameters and fields is expanded to: which names can be read, and which ones are
written.  The fields are added one by one, and each of them either makes a property two-sided or
becomes a property of its own.
-/

namespace Schemata

/-! ## Directions by name -/

namespace Property

variable {ν : Type} {properties : List (Property ν)}

/-- The direction of the first property of a name. -/
def direction? (properties : List (Property ν)) (name : String) : Option Direction :=
  (properties.find? (·.name == name)).map Property.direction

/-- The names of the properties that take part in a side. -/
def namesOn (side : Direction) (properties : List (Property ν)) : List String :=
  (properties.filter (·.direction.isOn side)).map Property.name

theorem direction?_cons (property : Property ν) (properties : List (Property ν)) (name : String) :
    direction? (property :: properties) name =
      if property.name = name then some property.direction else direction? properties name := by
  unfold direction?
  rw [List.find?_cons]
  by_cases same : property.name = name
  · simp [same]
  · simp only [beq_eq_false_iff_ne.mpr same, if_neg same]

theorem direction?_append (properties later : List (Property ν)) (name : String) :
    direction? (properties ++ later) name =
      (direction? properties name).or (direction? later name) := by
  induction properties with
  | nil => rfl
  | cons property rest ih =>
      rw [List.cons_append, direction?_cons, direction?_cons, ih]
      split <;> rfl

theorem direction?_isSome_iff {name : String} :
    (direction? properties name).isSome = true ↔ name ∈ properties.map Property.name := by
  induction properties with
  | nil => simp [direction?]
  | cons property rest ih =>
      rw [direction?_cons, List.map_cons, List.mem_cons]
      split
      next same => simp [same]
      next other => rw [ih, or_iff_right (Ne.symm other)]

theorem direction?_eq_none_iff {name : String} :
    direction? properties name = none ↔ name ∉ properties.map Property.name := by
  rw [← direction?_isSome_iff, Option.not_isSome_iff_eq_none]

/-- Where each name occurs once, every property is the first one of its name. -/
theorem direction?_eq_some_iff (once : (properties.map Property.name).Nodup) {name : String}
    {direction : Direction} :
    direction? properties name = some direction ↔
      ∃ property ∈ properties, property.name = name ∧ property.direction = direction := by
  induction properties with
  | nil => simp [direction?]
  | cons property rest ih =>
      obtain ⟨fresh, distinct⟩ := List.nodup_cons.mp once
      rw [direction?_cons, List.exists_mem_cons_iff]
      split
      next same =>
        subst same
        have absent : ¬∃ other ∈ rest, other.name = property.name ∧
            other.direction = direction := by
          rintro ⟨other, among, same, _⟩
          exact fresh (same ▸ List.mem_map_of_mem among)
        simp [or_iff_left absent]
      next other => simp [ih distinct, other]

theorem mem_namesOn_iff (once : (properties.map Property.name).Nodup) {side : Direction}
    {name : String} :
    name ∈ namesOn side properties ↔
      ∃ direction, direction? properties name = some direction ∧ direction.isOn side = true := by
  simp only [namesOn, List.mem_map, List.mem_filter, direction?_eq_some_iff once]
  constructor
  · rintro ⟨property, ⟨among, takes⟩, rfl⟩
    exact ⟨_, ⟨property, among, rfl, rfl⟩, takes⟩
  · rintro ⟨_, ⟨property, among, same, rfl⟩, takes⟩
    exact ⟨property, ⟨among, takes⟩, same⟩

end Property

/-! ## Declared sides -/

def FieldDecl.Declares (decls : List FieldDecl) (name : String) : Prop :=
  name ∈ decls.map FieldDecl.name

def FieldDecl.Promotes (decls : List FieldDecl) (name : String) : Prop :=
  ∃ decl ∈ decls, decl.promoted = true ∧ decl.name = name

open FieldDecl (Declares Promotes)
open Property (direction? namesOn)
open Parse (fail_ne_ok failAt_ne_ok lift_eq_ok_iff located_eq_ok_iff)

/-- Each name occurs once, what is read are the parameters of the constructor, or the fields when
there is none, what is written are the fields, and both sides have the parameters that a promoted
field backs, or everything when there is no constructor. -/
structure ClassShape.HasDeclaredSides (parameters : Option (List FieldDecl))
    (fields : List FieldDecl) (properties : List (Property Node)) : Prop where
  once : (properties.map Property.name).Nodup
  inputs : ∀ name, name ∈ namesOn .input properties ↔ Declares (parameters.getD fields) name
  outputs : ∀ name, name ∈ namesOn .output properties ↔ Declares fields name
  both : ∀ property ∈ properties, property.direction = .both ↔
    parameters = none ∨ ∃ declared, parameters = some declared ∧
      Declares declared property.name ∧ Promotes fields property.name

open ClassShape (HasDeclaredSides)

namespace FieldDecl

variable {decls : List FieldDecl} {decl : FieldDecl} {name : String}

theorem declares_append_iff :
    Declares (decls ++ [decl]) name ↔ Declares decls name ∨ decl.name = name := by
  simp [Declares, eq_comm]

theorem promotes_append_iff :
    Promotes (decls ++ [decl]) name ↔
      Promotes decls name ∨ decl.promoted = true ∧ decl.name = name := by
  simp [Promotes, or_and_right, exists_or]

theorem Promotes.declares (promotes : Promotes decls name) : Declares decls name := by
  obtain ⟨decl, among, _, rfl⟩ := promotes
  exact List.mem_map_of_mem among

end FieldDecl

namespace Rule.ClassExpansion

variable {expansion : ClassExpansion} {parameters done fields : List FieldDecl} {decl : FieldDecl}
  {direction : Direction} {properties next : List (Property Node)} {name : String}

/-! ## Adding one field -/

/-- What adding a field makes of the properties: a name that is taken is put on both sides, and any
other one becomes a property in the given direction. -/
inductive Adds (direction : Direction) (decl : FieldDecl) (properties : List (Property Node)) :
    List (Property Node) → Prop
  | promoted (taken : decl.name ∈ properties.map Property.name) (promoted : decl.promoted = true) :
      Adds direction decl properties (promote decl.name properties)
  | appended (fresh : decl.name ∉ properties.map Property.name) (plain : decl.promoted = false)
      (node : Node) :
      Adds direction decl properties
        (properties ++ [{ name := decl.name, node, optional := decl.optional, direction }])

theorem adds_of_addFields_cons {fail : SyntaxError.Cause → SyntaxError}
    {result : List (Property Node)}
    (run : expansion.addFields fail direction properties (decl :: fields) = .ok result) :
    ∃ next, Adds direction decl properties next ∧
      expansion.addFields fail direction next fields = .ok result := by
  have taken_iff : (properties.any fun property => property.name == decl.name) = true ↔
      decl.name ∈ properties.map Property.name := by
    simp
  unfold addFields at run
  dsimp only at run
  split at run
  next both =>
    obtain ⟨taken, promoted⟩ := Bool.and_eq_true_iff.mp both
    exact ⟨_, .promoted (taken_iff.mp taken) promoted, run⟩
  next unmerged =>
    split at run
    · cases run
    next fresh =>
    split at run
    · cases run
    next plain =>
    split at run
    · cases run
    · cases read : expansion.fieldType decl with
      | error error =>
          rw [read] at run
          cases run
      | ok node =>
          rw [read] at run
          refine ⟨_, .appended (fun among => fresh (taken_iff.mpr among)) ?_ node, run⟩
          exact Bool.eq_false_iff.mpr plain

theorem direction?_promote (properties : List (Property Node)) (promoted name : String) :
    direction? (promote promoted properties) name =
      if promoted = name then (direction? properties name).map fun _ => .both
      else direction? properties name := by
  induction properties with
  | nil => simp [promote, direction?]
  | cons property rest ih =>
      unfold promote
      split
      next same =>
        subst same
        rw [Property.direction?_cons, Property.direction?_cons]
        by_cases here : property.name = name
        · simp [here]
        · simp [here]
      next other =>
        rw [Property.direction?_cons, Property.direction?_cons, ih]
        by_cases here : property.name = name
        · have elsewhere : promoted ≠ name := fun same => other (here.trans same.symm)
          simp [here, elsewhere]
        · simp [here]

/-! ## Adding all fields -/

/-- The directions of the names behind some of the fields.  Promoted names have both, a parameter
that is not promoted is read only and no field, and the names of other fields have the direction of
the fields. -/
structure Sided (parameters : List FieldDecl) (direction : Direction) (fields : List FieldDecl)
    (properties : List (Property Node)) : Prop where
  promoted : ∀ name, Promotes fields name → direction? properties name = some .both
  parameter : ∀ name, ¬Promotes fields name → Declares parameters name →
    direction? properties name = some .input ∧ ¬Declares fields name
  field : ∀ name, ¬Promotes fields name → ¬Declares parameters name → Declares fields name →
    direction? properties name = some direction
  other : ∀ name, ¬Declares parameters name → ¬Declares fields name →
    direction? properties name = none

/-- A promoted field puts its own name on both sides and leaves all others where they are. -/
theorem Sided.of_promoted (sided : Sided parameters direction done properties)
    (taken : decl.name ∈ properties.map Property.name) (promoted : decl.promoted = true) :
    Sided parameters direction (done ++ [decl]) (promote decl.name properties) := by
  obtain ⟨found, here⟩ := Option.isSome_iff_exists.mp (Property.direction?_isSome_iff.mpr taken)
  have own : direction? (promote decl.name properties) decl.name = some .both := by
    rw [direction?_promote, if_pos rfl, here]
    rfl
  have others : ∀ {name}, decl.name ≠ name →
      direction? (promote decl.name properties) name = direction? properties name :=
    fun elsewhere => by rw [direction?_promote, if_neg elsewhere]
  have promotes : ∀ {name}, Promotes (done ++ [decl]) name ↔
      Promotes done name ∨ decl.name = name := by
    simp [FieldDecl.promotes_append_iff, promoted]
  constructor
  case promoted =>
    intro name promoting
    by_cases same : decl.name = name
    · exact same ▸ own
    · rw [others same]
      exact sided.promoted name ((promotes.mp promoting).resolve_right same)
  all_goals
    simp only [promotes, FieldDecl.declares_append_iff, not_or]
    intro name
  case parameter =>
    rintro ⟨unpromoted, elsewhere⟩ among
    obtain ⟨input, no_field⟩ := sided.parameter name unpromoted among
    exact ⟨(others elsewhere).trans input, no_field, elsewhere⟩
  case field =>
    rintro ⟨unpromoted, elsewhere⟩ no_parameter among
    rw [others elsewhere]
    exact sided.field name unpromoted no_parameter (among.resolve_right elsewhere)
  case other =>
    rintro no_parameter ⟨no_field, elsewhere⟩
    rw [others elsewhere]
    exact sided.other name no_parameter no_field

/-- A field of a new name has the direction of the fields. -/
theorem Sided.of_appended (sided : Sided parameters direction done properties)
    (fresh : decl.name ∉ properties.map Property.name) (plain : decl.promoted = false)
    {property : Property Node} (name_eq : property.name = decl.name)
    (direction_eq : property.direction = direction) :
    Sided parameters direction (done ++ [decl]) (properties ++ [property]) := by
  have absent := Property.direction?_eq_none_iff.mpr fresh
  have directions : ∀ name, direction? (properties ++ [property]) name =
      (direction? properties name).or (if decl.name = name then some direction else none) := by
    intro name
    rw [Property.direction?_append, Property.direction?_cons, name_eq, direction_eq]
    rfl
  have promotes : ∀ {name}, Promotes (done ++ [decl]) name ↔ Promotes done name := by
    simp [FieldDecl.promotes_append_iff, plain]
  constructor
  all_goals
    simp only [promotes, FieldDecl.declares_append_iff, directions, not_or]
    intro name
  case promoted =>
    intro promoting
    rw [sided.promoted name promoting]
    rfl
  case parameter =>
    intro unpromoted among
    obtain ⟨input, no_field⟩ := sided.parameter name unpromoted among
    refine ⟨by rw [input]; rfl, no_field, ?_⟩
    rintro rfl
    rw [absent] at input
    cases input
  case field =>
    rintro unpromoted no_parameter (among | same)
    · rw [sided.field name unpromoted no_parameter among]
      rfl
    · rw [← same, absent, if_pos rfl]
      rfl
  case other =>
    rintro no_parameter ⟨no_field, elsewhere⟩
    rw [sided.other name no_parameter no_field, if_neg elsewhere]
    rfl

theorem Sided.of_adds (sided : Sided parameters direction done properties)
    (adds : Adds direction decl properties next) :
    Sided parameters direction (done ++ [decl]) next := by
  cases adds with
  | promoted taken promoted => exact sided.of_promoted taken promoted
  | appended fresh plain node => exact sided.of_appended fresh plain rfl rfl

theorem Sided.of_addFields {fail : SyntaxError.Cause → SyntaxError} {result : List (Property Node)}
    (sided : Sided parameters direction done properties)
    (run : expansion.addFields fail direction properties fields = .ok result) :
    Sided parameters direction (done ++ fields) result := by
  induction fields generalizing done properties with
  | nil =>
      cases run
      rwa [List.append_nil]
  | cons decl rest ih =>
      obtain ⟨next, adds, onward⟩ := adds_of_addFields_cons run
      have later := ih (sided.of_adds adds) onward
      rwa [List.append_assoc] at later

/-- Before any field is added, the parameters are there to be read. -/
theorem sided_of_parameterProperties
    (run : expansion.parameterProperties parameters = .ok properties) :
    Sided parameters direction [] properties := by
  have inputs : ∀ name, direction? properties name =
      if name ∈ parameters.map FieldDecl.name then some .input else none := by
    induction parameters generalizing properties with
    | nil =>
        cases run
        exact fun name => rfl
    | cons decl rest ih =>
        obtain ⟨node, _, onward⟩ := Except.bind_eq_ok_iff.mp run
        obtain ⟨others, later, built⟩ := Except.bind_eq_ok_iff.mp onward
        cases built
        intro name
        rw [Property.direction?_cons, ih later name]
        by_cases same : decl.name = name
        · simp [same]
        · simp [same, Ne.symm same]
  constructor
  · rintro name ⟨_, nothing, _⟩
    cases nothing
  · exact fun name _ among => ⟨(inputs name).trans (if_pos among), List.not_mem_nil⟩
  · exact fun name _ _ nothing => nomatch nothing
  · exact fun name no_parameter _ => (inputs name).trans (if_neg no_parameter)

/-! ## The sides of the properties -/

section

variable (once : (properties.map Property.name).Nodup)
include once

theorem Sided.mem_outputs_iff (sided : Sided parameters direction fields properties)
    (written : direction.isOutput = true) :
    name ∈ namesOn .output properties ↔ Declares fields name := by
  rw [Property.mem_namesOn_iff once]
  by_cases promoted : Promotes fields name
  · exact iff_of_true ⟨_, sided.promoted name promoted, rfl⟩ promoted.declares
  by_cases parameter : Declares parameters name
  · obtain ⟨input, no_field⟩ := sided.parameter name promoted parameter
    refine iff_of_false ?_ no_field
    rintro ⟨found, here, output⟩
    cases input.symm.trans here
    cases output
  by_cases field : Declares fields name
  · exact iff_of_true ⟨_, sided.field name promoted parameter field, written⟩ field
  · refine iff_of_false ?_ field
    rintro ⟨found, here, _⟩
    cases (sided.other name parameter field).symm.trans here

theorem Sided.mem_inputs_iff (sided : Sided parameters .output fields properties) :
    name ∈ namesOn .input properties ↔ Declares parameters name ∨ Promotes fields name := by
  rw [Property.mem_namesOn_iff once]
  by_cases promoted : Promotes fields name
  · exact iff_of_true ⟨_, sided.promoted name promoted, rfl⟩ (.inr promoted)
  rw [or_iff_left promoted]
  by_cases parameter : Declares parameters name
  · exact iff_of_true ⟨_, (sided.parameter name promoted parameter).1, rfl⟩ parameter
  refine iff_of_false ?_ parameter
  rintro ⟨found, here, input⟩
  by_cases field : Declares fields name
  · cases (sided.field name promoted parameter field).symm.trans here
    cases input
  · cases (sided.other name parameter field).symm.trans here

theorem Sided.both_iff (sided : Sided parameters .output fields properties)
    {property : Property Node} (among : property ∈ properties) :
    property.direction = .both ↔ Promotes fields property.name := by
  have here : direction? properties property.name = some property.direction :=
    (Property.direction?_eq_some_iff once).mpr ⟨property, among, rfl, rfl⟩
  by_cases promoted : Promotes fields property.name
  · exact iff_of_true (Option.some.inj (here.symm.trans (sided.promoted _ promoted))) promoted
  refine iff_of_false (fun both => ?_) promoted
  rw [both] at here
  by_cases parameter : Declares parameters property.name
  · cases (sided.parameter _ promoted parameter).1.symm.trans here
  by_cases field : Declares fields property.name
  · cases (sided.field _ promoted parameter field).symm.trans here
  · cases (sided.other _ parameter field).symm.trans here

/-- With a constructor, the sides are the declared ones as long as promoted fields back
parameters. -/
theorem Sided.hasDeclaredSides_iff (sided : Sided parameters .output fields properties) :
    HasDeclaredSides (some parameters) fields properties ↔
      ∀ name, Promotes fields name → Declares parameters name := by
  constructor
  · intro declared name promoted
    exact (declared.inputs name).mp ((sided.mem_inputs_iff once).mpr (.inr promoted))
  · intro backs
    refine ⟨once, fun name => ?_, fun name => sided.mem_outputs_iff once rfl,
      fun property among => ?_⟩
    · rw [sided.mem_inputs_iff once]
      exact or_iff_left_of_imp (backs name)
    · rw [sided.both_iff once among]
      constructor
      · exact fun promoted => .inr ⟨parameters, rfl, backs _ promoted, promoted⟩
      · rintro (⟨⟨⟩⟩ | ⟨_, _, _, promoted⟩)
        exact promoted

/-- Without a constructor, everything is on both sides. -/
theorem Sided.hasDeclaredSides (sided : Sided [] .both fields properties) :
    HasDeclaredSides none fields properties := by
  have outputs : ∀ name, name ∈ namesOn .output properties ↔ Declares fields name :=
    fun name => sided.mem_outputs_iff once rfl
  have both : ∀ name found, direction? properties name = some found → found = .both := by
    intro name found here
    by_cases promoted : Promotes fields name
    · exact Option.some.inj (here.symm.trans (sided.promoted name promoted))
    by_cases field : Declares fields name
    · exact Option.some.inj (here.symm.trans (sided.field name promoted List.not_mem_nil field))
    · cases here.symm.trans (sided.other name List.not_mem_nil field)
  refine ⟨once, fun name => ?_, outputs, fun property among => iff_of_true ?_ (.inl rfl)⟩
  · rw [Option.getD_none, ← outputs name, Property.mem_namesOn_iff once,
      Property.mem_namesOn_iff once]
    refine exists_congr fun found => and_congr_right fun here => ?_
    rw [both name found here]
    rfl
  · exact both _ _ ((Property.direction?_eq_some_iff once).mpr ⟨property, among, rfl, rfl⟩)

end

theorem objectType_eq_ok {parameters : Option (List FieldDecl)} {node : Node}
    {cursor after : Cursor}
    (run : expansion.objectType parameters fields cursor = .ok node after) :
    ∃ properties,
      Sided (parameters.getD []) (if parameters.isSome then .output else .both) fields
        properties ∧
      (properties.map Property.name).Nodup ∧
      node = .cast (.struct .object properties) expansion.className
        (if parameters.isSome then .constructor else .assignProperties) := by
  obtain ⟨_, _, ⟨⟩, run⟩ := EStateM.bind_eq_ok_iff.mp run
  obtain ⟨inputs, _, read, run⟩ := EStateM.bind_eq_ok_iff.mp run
  obtain ⟨properties, _, added, run⟩ := EStateM.bind_eq_ok_iff.mp run
  have sided := (sided_of_parameterProperties (lift_eq_ok_iff.mp read).1).of_addFields
    (lift_eq_ok_iff.mp added).1
  cases built : Node.structOf .object properties with
  | error error =>
      rw [built] at run
      cases run
  | ok shape =>
      rw [built] at run
      obtain ⟨rfl, _, once⟩ := Node.structOf_eq_ok built
      have cast := (located_eq_ok_iff.mp run).1
      cases parameters with
      | none =>
          cases cast
          exact ⟨properties, sided, once, rfl⟩
      | some declared =>
          cases cast
          exact ⟨properties, sided, once, rfl⟩

end Rule.ClassExpansion

namespace Rule

theorem word?_of_takeWord {cursor after : Cursor} {word : String}
    (run : Parse.takeWord cursor = .ok word after) : cursor.word? = some word := by
  obtain ⟨_, _, ⟨⟩, run⟩ := EStateM.bind_eq_ok_iff.mp run
  rw [Cursor.word?]
  cases seen : cursor.current.token with
  | word text =>
      simp only [seen] at run
      obtain ⟨_, _, _, run⟩ := EStateM.bind_eq_ok_iff.mp run
      cases run
      rfl
  | _ =>
      simp only [seen] at run
      exact absurd run fail_ne_ok

/-- The class a word stands for: the one of its first candidate that has any. -/
def class? (site : Site) (word : String) : Option (String × HostClass) :=
  (site.context.candidates word).findSome? fun name =>
    (site.registry.object? name).map fun hostClass => (name, hostClass)

theorem object?_of_class? {site : Site} {word className : String} {hostClass : HostClass}
    (found : class? site word = some (className, hostClass)) :
    site.registry.object? className = some hostClass := by
  obtain ⟨name, _, known⟩ := List.exists_of_findSome?_eq_some found
  obtain ⟨_, registered, same⟩ := Option.map_eq_some_iff.mp known
  obtain ⟨rfl, rfl⟩ := Prod.mk.inj same
  exact registered

/-- A class with fields becomes a struct of distinct names whose written side are the fields.  Both
of its sides are the declared ones exactly when, in the presence of a constructor, each promoted
field has the name of a parameter.  A field that repeats the name of an earlier one passes as
promoted without such a parameter. -/
theorem sides_of_classType {types : TypeReader} {site : Site} {cursor after : Cursor}
    {word className : String} {hostClass : HostClass} {parameters : Option (List FieldDecl)}
    {fields : List FieldDecl} {node : Node} (here : cursor.word? = some word)
    (found : class? site word = some (className, hostClass))
    (shape : hostClass.shape = .object parameters fields)
    (run : classType.read types site cursor = .ok node after) :
    ∃ properties,
      node = .cast (.struct .object properties) className
        (if parameters.isSome then .constructor else .assignProperties) ∧
      (properties.map Property.name).Nodup ∧
      (∀ name, name ∈ namesOn .output properties ↔ Declares fields name) ∧
      (HasDeclaredSides parameters fields properties ↔
        ∀ declared, parameters = some declared → ∀ name, Promotes fields name →
          Declares declared name) := by
  obtain ⟨lexeme, _, ⟨⟩, run⟩ := EStateM.bind_eq_ok_iff.mp run
  obtain ⟨taken, middle, take, run⟩ := EStateM.bind_eq_ok_iff.mp run
  obtain rfl : taken = word := Option.some.inj ((word?_of_takeWord take).symm.trans here)
  dsimp only at run
  unfold class? at found
  rw [found] at run
  dsimp only at run
  split at run
  · exact absurd run failAt_ne_ok
  rw [shape] at run
  obtain ⟨properties, sided, once, rfl⟩ := ClassExpansion.objectType_eq_ok run
  refine ⟨properties, rfl, once, ?_⟩
  cases parameters with
  | none =>
      exact ⟨fun name => sided.mem_outputs_iff once rfl,
        iff_of_true (sided.hasDeclaredSides once) fun _ nothing => nomatch nothing⟩
  | some declared =>
      refine ⟨fun name => sided.mem_outputs_iff once rfl,
        (sided.hasDeclaredSides_iff once).trans ?_⟩
      simp

/-- A class with a constructor for some parameters, and some fields. -/
def record (name : String) (parameters fields : List FieldDecl) : HostClass where
  name
  shape := .object (some parameters) fields
  flatten hosted := .ok (hosted.fields.getD [])

/-- The parameters of an account: the number of its owner, and a code that is not shown. -/
def accountParameters : List FieldDecl :=
  [{ name := "owner", typeText := "int" }, { name := "code", typeText := "int" }]

/-- The fields of an account: its own number, and its owner. -/
def accountFields : List FieldDecl :=
  [{ name := "id", typeText := "int" }, { name := "owner", typeText := "", promoted := true }]

/-- An account has its owner on both sides. -/
def accountProperties : List (Property Node) :=
  [⟨"owner", .builtIn .int, false, .both⟩, ⟨"code", .builtIn .int, false, .input⟩,
    ⟨"id", .builtIn .int, false, .output⟩]

/-- The only class is that of accounts. -/
def accounts : TypeRegistry where
  objects := [("Account", record "Account" accountParameters accountFields)]

/-- An account is made from its owner and a code, and is written with its owner and number. -/
theorem sides_of_account :
    classType.read (Parser.typeWithin { registry := accounts } 2)
        { registry := accounts, context := {} }
        { input := "Account", rest := [⟨.word "Account", ⟨0, 7⟩⟩] } =
      .ok (.cast (.struct .object accountProperties) "Account" .constructor)
        { input := "Account", rest := [] } ∧
    HasDeclaredSides (some accountParameters) accountFields accountProperties := by
  have read : classType.read (Parser.typeWithin { registry := accounts } 2)
        { registry := accounts, context := {} }
        { input := "Account", rest := [⟨.word "Account", ⟨0, 7⟩⟩] } =
      .ok (.cast (.struct .object accountProperties) "Account" .constructor)
        { input := "Account", rest := [] } := by
    rfl
  have found : class? { registry := accounts, context := {} } "Account" =
      some ("Account", record "Account" accountParameters accountFields) := by
    rfl
  obtain ⟨properties, same, _, _, declared⟩ := sides_of_classType rfl found rfl read
  cases same
  refine ⟨read, declared.mpr ?_⟩
  rintro _ ⟨⟩ name ⟨field, among, promoted, rfl⟩
  revert field
  simp [accountFields, accountParameters, Declares]

/-- A constructor that takes one parameter. -/
def tallyParameters : List FieldDecl :=
  [{ name := "a", typeText := "int" }]

/-- A field that is none of the parameters, declared once as it is and once as promoted. -/
def tallyFields : List FieldDecl :=
  [{ name := "y", typeText := "int" }, { name := "y", typeText := "", promoted := true }]

/-- The repeated field is read from data, though the constructor takes no parameter of its name. -/
theorem repeated_field_is_read :
    ∃ properties,
      Parser.parse
          { registry := { objects := [("K", record "K" tallyParameters tallyFields)] } } "K" =
        .ok (.cast (.struct .object properties) "K" .constructor) ∧
      ¬HasDeclaredSides (some tallyParameters) tallyFields properties := by
  refine ⟨[⟨"a", .builtIn .int, false, .input⟩, ⟨"y", .builtIn .int, false, .both⟩], rfl, ?_⟩
  intro declared
  have extra := (declared.inputs "y").mp (by decide)
  revert extra
  simp [Declares, tallyParameters]

end Rule

end Schemata
