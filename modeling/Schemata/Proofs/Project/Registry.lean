import Schemata.Project.Basic
import Schemata.Proofs.Parser.Declared

/-!
# Registries of projects

The registry of accepted settings has no host classes, its constants name existing cases, and its
formats are those of the settings.
-/

namespace Schemata

/-- The registry can be looked up throughout, and its formats stand in the settings. -/
structure TypeRegistry.ComesFrom (settings : Settings) (registry : TypeRegistry) : Prop where
  closed : registry.IsClosed
  formats : ∀ name format, registry.dateTime? name = some format →
    ∃ setting, (name, setting) ∈ settings.dateTimes ∧ format = .ofSetting setting

namespace TypeRegistry.ComesFrom

variable {settings : Settings} {registry : TypeRegistry}

theorem addDateTime (comes : registry.ComesFrom settings) {entry : String × String}
    (among : entry ∈ settings.dateTimes) :
    (registry.addDateTime entry.1 (.ofSetting entry.2)).ComesFrom settings := by
  refine ⟨⟨fun constant member => ?_, comes.closed.classless⟩, fun name format found => ?_⟩
  · exact comes.closed.constants constant member
  · rw [TypeRegistry.dateTime?, TypeRegistry.addDateTime, Dict.get?_insert] at found
    split at found
    next same =>
      cases found
      exact ⟨entry.2, same ▸ among, rfl⟩
    next => exact comes.formats name format found

theorem addAlias (comes : registry.ComesFrom settings) (name typeText : String) :
    (registry.addAlias name typeText).ComesFrom settings :=
  ⟨⟨comes.closed.constants, comes.closed.classless⟩, comes.formats⟩

theorem addConstant (comes : registry.ComesFrom settings) (className name : String)
    {value : Literal} (known : value.IsKnownIn registry) :
    (registry.addConstant className name value).ComesFrom settings := by
  refine ⟨⟨fun entry member => ?_, comes.closed.classless⟩, comes.formats⟩
  rcases Dict.mem_of_mem_insert member with rfl | earlier
  · exact known
  · exact comes.closed.constants entry earlier

end TypeRegistry.ComesFrom

namespace Project

variable {settings : Settings} {registry result : TypeRegistry}

/-- Adding enums leaves everything else as it was. -/
theorem eq_of_addEnums {enums : Dict (List String)}
    (success : addEnums registry enums = .ok result) :
    result.constants = registry.constants ∧ result.objects = registry.objects ∧
      result.dateTimes = registry.dateTimes := by
  induction enums generalizing registry with
  | nil =>
      cases success
      exact ⟨rfl, rfl, rfl⟩
  | cons entry rest ih =>
      unfold addEnums at success
      split at success
      · cases success
      · obtain ⟨constants, objects, dateTimes⟩ := ih success
        exact ⟨constants, objects, dateTimes⟩

/-- Without constants, formats and classes there is nothing that could be unknown. -/
theorem comesFrom_of_addEnums {enums : Dict (List String)}
    (success : addEnums {} enums = .ok result) : result.ComesFrom settings := by
  obtain ⟨constants, objects, dateTimes⟩ := eq_of_addEnums success
  refine ⟨⟨fun entry member => ?_, fun name => ?_⟩, fun name format found => ?_⟩
  · rw [constants] at member
    cases member
  · rw [TypeRegistry.object?, objects]
    rfl
  · rw [TypeRegistry.dateTime?, dateTimes] at found
    cases found

/-- A constant is added after its case has been looked up. -/
theorem comesFrom_of_addConstants {constants : Dict Literal} (comes : registry.ComesFrom settings)
    (success : addConstants registry constants = .ok result) : result.ComesFrom settings := by
  induction constants generalizing registry with
  | nil =>
      cases success
      exact comes
  | cons entry rest ih =>
      obtain ⟨key, value⟩ := entry
      unfold addConstants at success
      split at success
      · cases success
      next chars name _ =>
        have onward (known : value.IsKnownIn registry) :=
          ih (comes.addConstant (String.ofList chars) (String.ofList name) known)
        cases value with
        | enumCase enumeration case =>
            dsimp only at success
            split at success
            next known => exact onward known success
            next => cases success
        | _ => exact onward trivial success

/-- The registry of a project comes from its settings. -/
theorem comesFrom_of_ofSettings {project : Project} (accepted : ofSettings settings = .ok project) :
    project.registry.ComesFrom settings := by
  obtain ⟨enums, first, accepted⟩ := Except.bind_eq_ok_iff.mp accepted
  obtain ⟨registry, last, accepted⟩ := Except.bind_eq_ok_iff.mp accepted
  cases accepted
  refine comesFrom_of_addConstants ?_ last
  refine List.foldlRecOn settings.aliases _ ?_ fun _ comes entry _ =>
    comes.addAlias entry.1 entry.2
  refine List.foldlRecOn settings.dateTimes _ ?_ fun _ comes entry among =>
    comes.addDateTime among
  exact comesFrom_of_addEnums first

end Project

end Schemata
