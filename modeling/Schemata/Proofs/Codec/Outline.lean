import Schemata.Proofs.Codec.Steady
import Schemata.Proofs.Dictionary
import Schemata.Proofs.Node.Shape

/-!
# Walks that agree

The outline of some issues is their keys, path by path, without what there is to say about the
values.  Two walks agree when they come to the same value or stop for the same reason, with reports
of one outline.  Agreement passes through the composition of walks.
-/

namespace Schemata

open List (Forall₂)

namespace Issues

/-- The keys of the issues, path by path. -/
def outline (issues : Issues) : Dict (List String) :=
  Dict.mapValues (·.map Issue.key) issues

theorem outline_extend (issues : Issues) (path : String) (found : List Issue) :
    (issues.extend path found).outline =
      Dict.insert issues.outline path
        ((Dict.get? issues.outline path).getD [] ++ found.map Issue.key) := by
  have read : Dict.get? issues.outline path = (Dict.get? issues path).map (·.map Issue.key) :=
    Dict.get?_map _ issues path
  rw [outline, extend, Dict.mapValues_insert, List.map_append, read]
  cases Dict.get? issues path <;> rfl

/-- What is added shows in the outline by its keys only. -/
theorem outline_extend_congr {left right : Issues} (same : left.outline = right.outline)
    (path : String) {found found' : List Issue}
    (keys : found.map Issue.key = found'.map Issue.key) :
    (left.extend path found).outline = (right.extend path found').outline := by
  rw [outline_extend, outline_extend, same, keys]

theorem outline_merge_congr {left right later later' : Issues}
    (same : left.outline = right.outline) (added : later.outline = later'.outline) :
    (left.merge later).outline = (right.merge later').outline := by
  induction later generalizing later' left right with
  | nil =>
      obtain rfl : later' = [] := List.map_eq_nil_iff.mp added.symm
      exact same
  | cons entry rest ih =>
      cases later' with
      | nil => cases added
      | cons entry' rest' =>
          obtain ⟨first, others⟩ := List.cons.inj added
          obtain ⟨path, keys⟩ := Prod.mk.inj first
          have extended : (left.extend entry.1 entry.2).outline =
              (right.extend entry'.1 entry'.2).outline := by
            rw [← path]
            exact outline_extend_congr same _ keys
          have merged := ih extended others
          exact merged

end Issues

/-- Two reports from one place with issues of one outline. -/
structure Report.Alike (left right : Report) : Prop where
  path : left.path = right.path
  outline : left.issues.outline = right.issues.outline

namespace Report.Alike

variable {left right : Report}

theorem refl (report : Report) : report.Alike report :=
  ⟨rfl, rfl⟩

theorem add (alike : left.Alike right) {issue issue' : Issue} (key : issue.key = issue'.key) :
    (left.add issue).Alike (right.add issue') := by
  have place : left.pathText = right.pathText := by rw [pathText, pathText, alike.path]
  refine ⟨alike.path, ?_⟩
  change (left.issues.extend _ _).outline = (right.issues.extend _ _).outline
  rw [place]
  exact Issues.outline_extend_congr alike.outline _ (congrArg ([·]) key)

theorem foldl_add (alike : left.Alike right) (issues : List Issue) :
    (issues.foldl Report.add left).Alike (issues.foldl Report.add right) := by
  induction issues generalizing left right with
  | nil => exact alike
  | cons issue rest ih => exact ih (alike.add rfl)

theorem enter (alike : left.Alike right) (segment : Segment) :
    (left.enter segment).Alike (right.enter segment) :=
  ⟨congrArg (segment :: ·) alike.path, alike.outline⟩

theorem leave (alike : left.Alike right) : left.leave.Alike right.leave :=
  ⟨congrArg (List.drop 1) alike.path, alike.outline⟩

theorem hasIssues (alike : left.Alike right) : left.hasIssues = right.hasIssues := by
  have empty := congrArg List.isEmpty alike.outline
  simp only [Issues.outline, Dict.mapValues, List.isEmpty_map] at empty
  rw [Report.hasIssues, Report.hasIssues, empty]

end Report.Alike

namespace Walk

variable {α β γ : Type}

/-- Two walks came to one value or stopped for one reason, with reports alike. -/
inductive SameOutcome : EStateM.Result Stop Report α → EStateM.Result Stop Report α → Prop where
  | ok (value : α) {after after' : Report} (reports : after.Alike after') :
      SameOutcome (.ok value after) (.ok value after')
  | error (stop : Stop) {after after' : Report} (reports : after.Alike after') :
      SameOutcome (.error stop after) (.error stop after')

/-- From reports that are alike, two walks have the same outcome. -/
def Agree (left right : Walk α) : Prop :=
  ∀ ⦃report report' : Report⦄, report.Alike report' → SameOutcome (left report) (right report')

namespace Agree

theorem pure (value : α) : Agree (Pure.pure value : Walk α) (Pure.pure value) :=
  fun _ _ alike => .ok value alike

theorem throw (stop : Stop) : Agree (MonadExcept.throw stop : Walk α) (MonadExcept.throw stop) :=
  fun _ _ alike => .error stop alike

theorem defect (fault : Defect) : Agree (Walk.defect fault : Walk α) (Walk.defect fault) :=
  throw _

theorem report {issue issue' : Issue} (key : issue.key = issue'.key) :
    Agree (Walk.report issue) (Walk.report issue') :=
  fun _ _ alike => .ok () (alike.add key)

theorem fail {issue issue' : Issue} (key : issue.key = issue'.key) :
    Agree (Walk.fail issue : Walk α) (Walk.fail issue') :=
  fun _ _ alike => .error .invalid (alike.add key)

theorem bind {left right : Walk α} {next next' : α → Walk β} (first : Agree left right)
    (later : ∀ value, Agree (next value) (next' value)) :
    Agree (left >>= next) (right >>= next') := by
  intro report report' alike
  change SameOutcome (EStateM.bind left next report) (EStateM.bind right next' report')
  unfold EStateM.bind
  have outcome := first alike
  generalize left report = here, right report' = there at outcome ⊢
  cases outcome with
  | ok value reports => exact later value reports
  | error stop reports => exact .error stop reports

theorem map {left right : Walk α} (agree : Agree left right) (change : α → β) :
    Agree (do return change (← left)) (do return change (← right)) :=
  agree.bind fun _ => pure _

theorem within {left right : Walk α} (agree : Agree left right) (segment : Segment) :
    Agree (Walk.within segment left) (Walk.within segment right) := by
  intro report report' alike
  unfold Walk.within
  have outcome := agree (alike.enter segment)
  generalize left _ = here, right _ = there at outcome ⊢
  cases outcome with
  | ok value reports => exact .ok value reports.leave
  | error stop reports => exact .error stop reports.leave

theorem optional {left right : Walk α} (agree : Agree left right) :
    Agree (Walk.optional left) (Walk.optional right) := by
  intro report report' alike
  unfold Walk.optional
  have outcome := agree alike
  generalize left report = here, right report' = there at outcome ⊢
  cases outcome with
  | ok value reports => exact .ok _ reports
  | error stop reports =>
      cases stop with
      | absent => exact .ok none reports
      | invalid | defect => exact .error _ reports

/-- What is tried apart from the issues found so far agrees, as the outline of joined issues is that
of their outlines. -/
theorem attempt {left right : Walk α} (agree : Agree left right) :
    Agree (Walk.attempt left) (Walk.attempt right) := by
  intro report report' alike
  unfold Walk.attempt
  have apart : Report.Alike { report with issues := [] } { report' with issues := [] } :=
    ⟨alike.path, rfl⟩
  have outcome := agree apart
  generalize left _ = here, right _ = there at outcome ⊢
  cases outcome with
  | ok value reports =>
      exact .ok _ ⟨reports.path, Issues.outline_merge_congr alike.outline reports.outline⟩
  | error stop reports =>
      cases stop with
      | absent | invalid => exact .ok none ⟨reports.path, alike.outline⟩
      | defect fault => exact .error _ reports

end Agree

/-- A walk agrees with itself. -/
theorem Regular.agree {codec : Codec} {walk : Walk α} (regular : Regular codec walk) :
    Agree walk walk := by
  induction regular with
  | value found => exact .pure found
  | refusal issue more _ =>
      intro report report' alike
      rw [refuse_run, refuse_run]
      exact .error .invalid (alike.foldl_add _)
  | fault fault => exact .defect fault
  | bind _ _ first later => exact first.bind later
  | within segment _ inside => exact inside.within segment
  | optional _ inside => exact inside.optional
  | attempt _ inside => exact inside.attempt

/-! ## Composed walks -/

theorem agree_firstOf {walk walk' : β → Walk α} {choices others : List β}
    (pairwise : Forall₂ (fun left right => Agree (walk left) (walk' right)) choices others) :
    Agree (firstOf walk choices) (firstOf walk' others) := by
  induction pairwise with
  | nil => exact .pure none
  | cons here _ ih =>
      refine here.attempt.bind fun found => ?_
      cases found with
      | some value => exact .pure _
      | none => exact ih

theorem agree_items {walk walk' : β → Walk α} (index : Nat) {values others : List β}
    (pairwise : Forall₂ (fun left right => Agree (walk left) (walk' right)) values others) :
    Agree (items walk index values) (items walk' index others) := by
  induction pairwise generalizing index with
  | nil => exact .pure []
  | cons here _ ih =>
      refine (here.within _).bind fun value => ?_
      exact (ih (index + 1)).map _

theorem agree_entries {walk walk' : β → Walk α} (each : ∀ item, Agree (walk item) (walk' item))
    (members : List (String × β)) : Agree (entries walk members) (entries walk' members) := by
  induction members with
  | nil => exact .pure []
  | cons member rest ih =>
      refine ((each member.2).within _).bind fun value => ?_
      exact ih.map _

theorem agree_elements {walk walk' : Node → β → Walk α} {nodes others : List Node}
    (pairwise : Forall₂ (fun left right => ∀ value, Agree (walk left value) (walk' right value))
      nodes others) (values : List β) :
    Agree (elements walk nodes values) (elements walk' others values) := by
  unfold elements
  rw [pairwise.length_eq]
  split
  · have pairs : Forall₂ (fun left right : Node × β =>
        Agree (walk left.1 left.2) (walk' right.1 right.2)) (nodes.zip values)
        (others.zip values) := by
      clear * - pairwise
      induction pairwise generalizing values with
      | nil => exact .nil
      | cons here _ ih =>
          cases values with
          | nil => exact .nil
          | cons value rest => exact .cons (here value) (ih rest)
    exact agree_items 0 pairs
  · exact .fail rfl

theorem agree_properties {walk walk' : Node → β → Walk α} (members : Dict β)
    {properties others : List (Property Node)}
    (pairwise : Forall₂ (Property.Related fun left right =>
      ∀ value, Agree (walk left value) (walk' right value)) properties others) :
    Agree (Walk.properties walk members properties) (Walk.properties walk' members others) := by
  induction pairwise with
  | nil => exact .pure []
  | @cons property property' _ _ here _ ih =>
      unfold Walk.properties
      rw [← here.optional, ← here.name]
      refine Agree.bind (.optional (.within ?_ _)) fun found => ?_
      · cases Dict.get? members property.name with
        | some member => exact here.node member
        | none => exact .throw _
      · cases found with
        | some value => exact ih.map _
        | none =>
            dsimp only
            split
            · exact ih
            · exact .within (.fail rfl) _

end Walk

/-- Two results that are one value, one fault, or failures of one outline. -/
inductive SameResult {α : Type} : Except CodecError α → Except CodecError α → Prop where
  | value (found : α) : SameResult (.ok found) (.ok found)
  | invalid {failure failure' : Failure}
      (outline : failure.issues.outline = failure'.issues.outline) :
      SameResult (.error (.invalid failure)) (.error (.invalid failure'))
  | defect (fault : Defect) : SameResult (.error (.defect fault)) (.error (.defect fault))

/-- Walks that agree have one result. -/
theorem Walk.Agree.conclude {α : Type} {left right : Walk α} (agree : Agree left right) :
    SameResult (Walk.conclude left) (Walk.conclude right) := by
  unfold Walk.conclude
  have outcome := agree (.refl {})
  generalize left _ = here, right _ = there at outcome ⊢
  cases outcome with
  | ok value reports =>
      dsimp only
      rw [reports.hasIssues]
      split
      · exact .invalid reports.outline
      · exact .value value
  | error stop reports =>
      cases stop with
      | absent => exact .invalid (reports.add rfl).outline
      | invalid => exact .invalid reports.outline
      | defect fault => exact .defect fault

end Schemata
