import Mathlib.Data.List.Forall2
import Schemata.Codec.Basic
import Schemata.Proofs.Outcome

/-!
# What walks come to

Most walks come to the same on every report: to a value, with the report as it was, or to the same
stop, at the place where they started.  Such a walk is known by its verdict alone, and the verdict
of a composed walk follows from those of its parts.
-/

namespace Schemata.Walk

open List (Forall₂)

variable {α β γ : Type}

/-- The result of a walk that comes to a verdict from a report. -/
def Leaves (report : Report) : Except Stop α → EStateM.Result Stop Report α → Prop
  | .ok value, result => result = .ok value report
  | .error stop, result =>
      stop ≠ .absent ∧ ∃ after, result = .error stop after ∧ after.path = report.path

/-- A walk comes to a verdict from every report. -/
def ComesTo (walk : Walk α) (verdict : Except Stop α) : Prop :=
  ∀ report, Leaves report verdict (walk report)

/-- What a walk comes to from the empty report. -/
def verdict (walk : Walk α) : Except Stop α :=
  match walk {} with
  | .ok value _ => .ok value
  | .error stop _ => .error stop

/-- A walk that comes to one verdict from every report. -/
def Steady (walk : Walk α) : Prop :=
  ComesTo walk walk.verdict

namespace ComesTo

variable {walk : Walk α} {outcome : Except Stop α}

theorem verdict_eq (comes : ComesTo walk outcome) : walk.verdict = outcome := by
  have start := comes {}
  cases outcome with
  | ok value =>
      change walk {} = _ at start
      rw [verdict, start]
  | error stop =>
      obtain ⟨_, after, run, _⟩ := start
      rw [verdict, run]

theorem steady (comes : ComesTo walk outcome) : Steady walk := by
  rwa [Steady, comes.verdict_eq]

/-- A walk that goes on with a value comes to what the walk behind it comes to. -/
theorem bind {next : α → Walk β} {onward : α → Except Stop β} (comes : ComesTo walk outcome)
    (later : ∀ value, outcome = .ok value → ComesTo (next value) (onward value)) :
    ComesTo (walk >>= next) (outcome >>= onward) := by
  intro report
  have first := comes report
  cases outcome with
  | ok value =>
      have run : walk report = .ok value report := first
      rw [EStateM.bind_of_ok run]
      exact later value rfl report
  | error stop =>
      obtain ⟨present, after, run, place⟩ := first
      rw [EStateM.bind_of_error run]
      exact ⟨present, after, rfl, place⟩

theorem within (segment : Segment) (comes : ComesTo walk outcome) :
    ComesTo (Walk.within segment walk) outcome := by
  intro report
  have inside := comes (report.enter segment)
  cases outcome with
  | ok value =>
      change walk _ = _ at inside
      change Walk.within segment walk report = _
      rw [Walk.within, inside]
      rfl
  | error stop =>
      obtain ⟨present, after, run, place⟩ := inside
      refine ⟨present, after.leave, ?_, ?_⟩
      · rw [Walk.within, run]
      · rw [Report.leave, place]
        rfl

end ComesTo

/-! ## Single walks -/

theorem comesTo_pure (value : α) : ComesTo (pure value) (.ok value) :=
  fun _ => rfl

theorem comesTo_fail (issue : Issue) : ComesTo (fail issue : Walk α) (.error .invalid) :=
  fun report => ⟨Stop.noConfusion, report.add issue, rfl, rfl⟩

theorem comesTo_defect (fault : Defect) :
    ComesTo (defect fault : Walk α) (.error (.defect fault)) :=
  fun report => ⟨Stop.noConfusion, report, rfl, rfl⟩

/-- What trying a walk comes to. -/
def tried : Except Stop α → Except Stop (Option α)
  | .ok value => .ok (some value)
  | .error (.defect fault) => .error (.defect fault)
  | .error _ => .ok none

theorem ComesTo.attempt {walk : Walk α} {outcome : Except Stop α}
    (comes : ComesTo walk outcome) : ComesTo (Walk.attempt walk) (tried outcome) := by
  intro report
  have apart := comes { report with issues := [] }
  cases outcome with
  | ok value =>
      change walk _ = _ at apart
      change Walk.attempt walk report = _
      rw [Walk.attempt, apart]
      rfl
  | error stop =>
      obtain ⟨present, after, run, place⟩ := apart
      cases stop with
      | absent => exact absurd rfl present
      | invalid =>
          change Walk.attempt walk report = _
          rw [Walk.attempt, run]
          cases report
          exact congrArg (EStateM.Result.ok none) (congrArg (Report.mk · _) place)
      | defect fault =>
          refine ⟨Stop.noConfusion, after, ?_, place⟩
          rw [Walk.attempt, run]

namespace Steady

variable {walk : Walk α} {next : α → Walk β}

theorem bind (steady : Steady walk) (later : ∀ value, Steady (next value)) :
    Steady (walk >>= next) :=
  (ComesTo.bind steady fun value _ => later value).steady

theorem verdict_bind (steady : Steady walk) (later : ∀ value, Steady (next value)) :
    (walk >>= next).verdict = walk.verdict >>= fun value => (next value).verdict :=
  (ComesTo.bind steady fun value _ => later value).verdict_eq

theorem verdict_map (steady : Steady walk) (change : α → β) :
    (do return change (← walk) : Walk β).verdict = change <$> walk.verdict := by
  rw [steady.verdict_bind fun _ => (comesTo_pure _).steady]
  cases walk.verdict <;> rfl

/-- A steady walk never stops for want of a value. -/
theorem ne_absent (steady : Steady walk) : walk.verdict ≠ .error .absent := by
  intro absent
  have start := steady {}
  rw [absent] at start
  exact start.1 rfl

end Steady

/-! ## Choices -/

section

variable {walk : β → Walk α} {choices : List β}

theorem steady_attempt {walk : Walk α} (steady : Steady walk) : Steady (attempt walk) :=
  (ComesTo.attempt steady).steady

theorem verdict_attempt {walk : Walk α} (steady : Steady walk) :
    (attempt walk).verdict = tried walk.verdict :=
  (ComesTo.attempt steady).verdict_eq

theorem steady_firstOf (steady : ∀ choice ∈ choices, Steady (walk choice)) :
    Steady (firstOf walk choices) := by
  induction choices with
  | nil => exact (comesTo_pure _).steady
  | cons choice rest ih =>
      have here := steady_attempt (steady choice List.mem_cons_self)
      refine here.bind fun found => ?_
      cases found with
      | some value => exact (comesTo_pure _).steady
      | none => exact ih fun other member => steady other (List.mem_cons_of_mem _ member)

theorem verdict_firstOf_cons {choice : β} {rest : List β}
    (steady : ∀ other ∈ choice :: rest, Steady (walk other)) :
    (firstOf walk (choice :: rest)).verdict = tried (walk choice).verdict >>= fun found =>
      match found with
      | some value => .ok (some value)
      | none => (firstOf walk rest).verdict := by
  have here := steady choice List.mem_cons_self
  have later := steady_firstOf fun other member => steady other (List.mem_cons_of_mem _ member)
  rw [← verdict_attempt here, firstOf, (steady_attempt here).verdict_bind]
  · refine bind_congr fun found => ?_
    cases found with
    | some value => rfl
    | none => rfl
  · rintro (_ | value)
    · exact later
    · exact (comesTo_pure _).steady

/-- A value comes from the first choice that the choices before it leave to it. -/
theorem verdict_firstOf_eq_some_iff (steady : ∀ choice ∈ choices, Steady (walk choice))
    {value : α} :
    (firstOf walk choices).verdict = .ok (some value) ↔
      ∃ before choice after, choices = before ++ choice :: after ∧
        (∀ other ∈ before, (walk other).verdict = .error .invalid) ∧
          (walk choice).verdict = .ok value := by
  induction choices with
  | nil =>
      constructor
      · rintro ⟨⟩
      · rintro ⟨before, choice, after, nothing, _⟩
        cases before <;> cases nothing
  | cons first rest ih =>
      have later := ih fun other member => steady other (List.mem_cons_of_mem _ member)
      rw [verdict_firstOf_cons steady]
      constructor
      · intro success
        cases here : (walk first).verdict with
        | ok found =>
            rw [here] at success
            cases success
            exact ⟨[], first, rest, rfl, by simp, here⟩
        | error stop =>
            rw [here] at success
            cases stop with
            | absent => exact absurd here (steady first List.mem_cons_self).ne_absent
            | defect fault => cases success
            | invalid =>
                obtain ⟨before, choice, after, rfl, invalid, found⟩ := later.mp success
                exact ⟨first :: before, choice, after, rfl,
                  List.forall_mem_cons.mpr ⟨here, invalid⟩, found⟩
      · rintro ⟨before, choice, after, split, invalid, found⟩
        cases before with
        | nil =>
            obtain ⟨rfl, rfl⟩ := List.cons.inj split
            rw [found]
            rfl
        | cons other before =>
            obtain ⟨rfl, rfl⟩ := List.cons.inj split
            obtain ⟨here, invalid⟩ := List.forall_mem_cons.mp invalid
            rw [here]
            exact later.mpr ⟨before, choice, after, rfl, invalid, found⟩

end

/-! ## Items and entries -/

section

variable {walk : β → Walk α}

theorem comesTo_items (steady : ∀ item, Steady (walk item)) (index : Nat) (values : List β) :
    ComesTo (items walk index values) (values.mapM fun item => (walk item).verdict) := by
  induction values generalizing index with
  | nil => exact comesTo_pure _
  | cons item rest ih =>
      rw [List.mapM_cons]
      exact ((steady item).within _).bind fun value _ =>
        (ih _).bind fun values _ => comesTo_pure _

theorem comesTo_entries (steady : ∀ item, Steady (walk item)) (members : List (String × β)) :
    ComesTo (entries walk members) (members.mapM fun member => do
      return (member.1, ← (walk member.2).verdict)) := by
  induction members with
  | nil => exact comesTo_pure _
  | cons member rest ih =>
      obtain ⟨key, item⟩ := member
      rw [List.mapM_cons, bind_assoc]
      refine ((steady item).within _).bind fun value _ => ?_
      rw [pure_bind]
      exact ih.bind fun values _ => comesTo_pure _

end

theorem comesTo_elements {walk : Node → β → Walk α} (steady : ∀ node item, Steady (walk node item))
    (nodes : List Node) (values : List β) :
    ComesTo (elements walk nodes values)
      (if values.length = nodes.length then
        (nodes.zip values).mapM fun pair => (walk pair.1 pair.2).verdict
      else .error .invalid) := by
  unfold elements
  split
  · exact comesTo_items (fun pair : Node × β => steady pair.1 pair.2) 0 _
  · exact comesTo_fail _

/-! ## Properties -/

/-- The values that the members of a dictionary have along some properties. -/
inductive Collected (reads : Node → β → α → Prop) (members : Dict β) :
    List (Property Node) → Dict α → Prop where
  | nil : Collected reads members [] []
  | present {property : Property Node} {rest : List (Property Node)} {member : β} {value : α}
      {values : Dict α} (found : Dict.get? members property.name = some member)
      (read : reads property.node member value) (later : Collected reads members rest values) :
      Collected reads members (property :: rest) ((property.name, value) :: values)
  | missing {property : Property Node} {rest : List (Property Node)} {values : Dict α}
      (absent : Dict.get? members property.name = none) (optional : property.optional = true)
      (later : Collected reads members rest values) :
      Collected reads members (property :: rest) values

section

variable {walk : Node → β → Walk α} {members : Dict β} {properties : List (Property Node)}

theorem ComesTo.optional {walk : Walk α} {outcome : Except Stop α} (comes : ComesTo walk outcome) :
    ComesTo (Walk.optional walk) (some <$> outcome) := by
  intro report
  have inside := comes report
  cases outcome with
  | ok value =>
      change walk report = _ at inside
      change Walk.optional walk report = _
      rw [Walk.optional, inside]
  | error stop =>
      obtain ⟨present, after, run, place⟩ := inside
      refine ⟨present, after, ?_, place⟩
      rw [Walk.optional, run]
      cases stop with
      | absent => exact absurd rfl present
      | invalid | defect => rfl

/-- What the member for a property comes to, if there is one. -/
theorem comesTo_member (steady : ∀ node member, Steady (walk node member)) (members : Dict β)
    (property : Property Node) :
    ComesTo
      (Walk.optional <| within (.key property.name) <|
        match Dict.get? members property.name with
        | some member => walk property.node member
        | none => throw .absent)
      (match Dict.get? members property.name with
        | some member => some <$> (walk property.node member).verdict
        | none => .ok none) := by
  cases Dict.get? members property.name with
  | none => exact fun _ => rfl
  | some member => exact (ComesTo.within _ (steady _ _)).optional

theorem steady_properties (steady : ∀ node member, Steady (walk node member)) :
    Steady (Walk.properties walk members properties) := by
  induction properties with
  | nil => exact (comesTo_pure _).steady
  | cons property rest ih =>
      refine (comesTo_member steady members property).steady.bind fun found => ?_
      cases found with
      | some value => exact ih.bind fun _ => (comesTo_pure _).steady
      | none =>
          dsimp only
          split
          · exact ih
          · exact ((comesTo_fail _).within _).steady

/-- What the first property comes to decides on what the properties come to. -/
theorem verdict_properties_cons (steady : ∀ node member, Steady (walk node member))
    (property : Property Node) (rest : List (Property Node)) :
    (Walk.properties walk members (property :: rest)).verdict =
      match Dict.get? members property.name with
      | some member => do
          let value ← (walk property.node member).verdict
          let values ← (Walk.properties walk members rest).verdict
          return (property.name, value) :: values
      | none =>
          if property.optional then (Walk.properties walk members rest).verdict
          else .error .invalid := by
  have later : Steady (Walk.properties walk members rest) := steady_properties steady
  have whole : ComesTo (Walk.properties walk members (property :: rest))
      ((match Dict.get? members property.name with
        | some member => some <$> (walk property.node member).verdict
        | none => .ok none) >>= fun found =>
          match found with
          | some value => do
              let values ← (Walk.properties walk members rest).verdict
              return (property.name, value) :: values
          | none =>
              if property.optional then (Walk.properties walk members rest).verdict
              else .error .invalid) := by
    refine (comesTo_member steady members property).bind fun found _ => ?_
    cases found with
    | some value => exact ComesTo.bind later fun _ _ => comesTo_pure _
    | none =>
        dsimp only
        split
        · exact later
        · exact (comesTo_fail _).within _
  rw [whole.verdict_eq]
  cases Dict.get? members property.name with
  | none => rfl
  | some member =>
      dsimp only
      cases (walk property.node member).verdict <;> rfl

/-- Properties are collected as far as they are present, and only optional ones may be missing. -/
theorem verdict_properties_eq_ok_iff (steady : ∀ node member, Steady (walk node member))
    {values : Dict α} :
    (Walk.properties walk members properties).verdict = .ok values ↔
      Collected (fun node member value => (walk node member).verdict = .ok value) members
        properties values := by
  induction properties generalizing values with
  | nil =>
      constructor
      · rintro ⟨⟩
        exact .nil
      · rintro ⟨⟩
        rfl
  | cons property rest ih =>
      rw [verdict_properties_cons steady]
      constructor
      · intro success
        split at success
        next member found =>
          obtain ⟨value, read, success⟩ := Except.bind_eq_ok_iff.mp success
          obtain ⟨later, collected, same⟩ := Except.bind_eq_ok_iff.mp success
          cases same
          exact .present found read (ih.mp collected)
        next absent =>
          split at success
          next optional => exact .missing absent optional (ih.mp success)
          next => cases success
      · intro collected
        cases collected with
        | present found read later =>
            rw [found]
            exact Except.bind_eq_ok_iff.mpr
              ⟨_, read, Except.bind_eq_ok_iff.mpr ⟨_, ih.mpr later, rfl⟩⟩
        | missing absent optional later =>
            rw [absent]
            dsimp only
            rw [if_pos optional]
            exact ih.mpr later

end

/-! ## Validators and whole walks -/

theorem forM_report (issues : List Validator) (report : Report) :
    ∃ after, (issues.forM fun validator => Walk.report (.ofValidator validator)) report =
      .ok ⟨⟩ after ∧ after.path = report.path := by
  induction issues generalizing report with
  | nil => exact ⟨report, rfl, rfl⟩
  | cons validator rest ih =>
      obtain ⟨after, run, place⟩ := ih (report.add (.ofValidator validator))
      exact ⟨after, run, place⟩

/-- A value passes when it passes every validator. -/
theorem comesTo_validate (value : Value) (validators : List Validator) :
    ComesTo (validate value validators)
      (if validators.all (·.check value) then .ok ⟨⟩ else .error .invalid) := by
  intro report
  by_cases passes : validators.all (·.check value)
  · have none_failed : (validators.filter fun validator => !validator.check value) = [] := by
      simpa using passes
    rw [if_pos passes]
    change validate value validators report = _
    rw [validate, none_failed]
    rfl
  · have some_failed : (validators.filter fun validator => !validator.check value) ≠ [] := by
      simpa using passes
    rw [if_neg passes]
    obtain ⟨after, run, place⟩ :=
      forM_report (validators.filter fun validator => !validator.check value) report
    refine ⟨Stop.noConfusion, after, ?_, place⟩
    change EStateM.bind _ _ report = _
    rw [EStateM.bind, run]
    dsimp only
    rw [if_neg (by simpa using some_failed)]
    rfl

/-- What a whole walk gives follows from what the walk comes to. -/
theorem conclude_eq {walk : Walk α} (steady : Steady walk) :
    (∃ value, walk.verdict = .ok value ∧ conclude walk = .ok value) ∨
      (∃ failure, walk.verdict = .error .invalid ∧ conclude walk = .error (.invalid failure)) ∨
        ∃ fault,
          walk.verdict = .error (.defect fault) ∧ conclude walk = .error (.defect fault) := by
  have start := steady {}
  cases outcome : walk.verdict with
  | ok value =>
      rw [outcome] at start
      change walk {} = _ at start
      refine Or.inl ⟨value, rfl, ?_⟩
      rw [conclude, start]
      rfl
  | error stop =>
      rw [outcome] at start
      obtain ⟨present, after, run, _⟩ := start
      cases stop with
      | absent => exact absurd rfl present
      | invalid => exact Or.inr (Or.inl ⟨after.failure, rfl, by rw [conclude, run]⟩)
      | defect fault => exact Or.inr (Or.inr ⟨fault, rfl, by rw [conclude, run]⟩)

/-- A whole walk gives the value that the walk comes to. -/
theorem conclude_eq_ok_iff {walk : Walk α} (steady : Steady walk) {value : α} :
    conclude walk = .ok value ↔ walk.verdict = .ok value := by
  obtain ⟨found, outcome, result⟩ | ⟨failure, outcome, result⟩ | ⟨fault, outcome, result⟩ :=
    conclude_eq steady
  · rw [outcome, result, Except.ok.injEq, Except.ok.injEq]
  · simp [outcome, result]
  · simp [outcome, result]

end Schemata.Walk
