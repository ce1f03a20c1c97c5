import Schemata.Proofs.Codec.Steady
import Schemata.Proofs.Dictionary

/-!
# The account of a walk

A walk that comes to a value leaves the report as it found it.  A walk that finds the data invalid
has added issues at a single place, where it started or below, and is back where it started.  So a
failure of a whole walk names exactly one path, with at least one issue.
-/

namespace Schemata

/-! ## Adding issues -/

/-- Adding issues twice behind those of a path is adding all of them at once. -/
theorem Issues.extend_extend (issues : Issues) (path : String) (found more : List Issue) :
    (issues.extend path found).extend path more = issues.extend path (found ++ more) := by
  simp only [extend, Dict.get?_insert_self, Dict.insert_insert, Option.getD_some,
    List.append_assoc]

namespace Report

/-- The report with some more issues at a place at or below the one it has come to. -/
def adding (report : Report) (below : List Segment) (found : List Issue) : Report :=
  { report with
    issues := report.issues.extend { report with path := below ++ report.path }.pathText found }

/-- Issues that are added one by one at the place of a report all stand there. -/
theorem foldl_add_eq_adding (report : Report) (issue : Issue) (more : List Issue) :
    (issue :: more).foldl add report = report.adding [] (issue :: more) := by
  have step (found : List Issue) :
      more.foldl add (report.adding [] found) = report.adding [] (found ++ more) := by
    induction more generalizing found with
    | nil => rw [List.foldl_nil, List.append_nil]
    | cons next rest ih =>
        have one : (report.adding [] found).add next = report.adding [] (found ++ [next]) := by
          have joined := report.issues.extend_extend report.pathText found [next]
          exact congrArg (fun issues => { report with issues }) joined
        rw [List.foldl_cons, one, ih, List.append_assoc]
        rfl
  exact step [issue]

/-- What is added below a part of the value is added below the value. -/
theorem leave_adding_enter (report : Report) (segment : Segment) (below : List Segment)
    (found : List Issue) :
    ((report.enter segment).adding below found).leave =
      report.adding (below ++ [segment]) found := by
  have place : below ++ (report.enter segment).path = below ++ [segment] ++ report.path :=
    (List.append_assoc below [segment] report.path).symm
  change ({ report with
    issues := report.issues.extend (pathText { path := _ }) found } : Report) = _
  rw [place]
  rfl

/-- Adding to an empty report names one path. -/
theorem issues_adding_empty (below : List Segment) (found : List Issue) :
    (({} : Report).adding below found).issues =
      [(({ path := below } : Report).pathText, found)] := by
  simp [adding, Issues.extend, Dict.insert]

end Report

namespace Walk

variable {codec : Codec} {α : Type} {walk : Walk α}

/-- What a walk that started from a report may come to.  It is never left without an answer, and
only a fault of the setup is free to leave the report in any state. -/
def Accounts (start : Report) : EStateM.Result Stop Report α → Prop
  | .ok _ after => after = start
  | .error .absent _ => False
  | .error .invalid after =>
      ∃ below found, found ≠ [] ∧ after = start.adding below found
  | .error (.defect _) _ => True

/-- As `Accounts`, with issues of one kind. -/
def AccountsFor (known : Issue → Prop) (start : Report) : EStateM.Result Stop Report α → Prop
  | .ok _ after => after = start
  | .error .absent _ => False
  | .error .invalid after =>
      ∃ below found, found ≠ [] ∧ (∀ issue ∈ found, known issue) ∧ after = start.adding below found
  | .error (.defect _) _ => True

theorem AccountsFor.accounts {known : Issue → Prop} {start : Report}
    {result : EStateM.Result Stop Report α} (account : AccountsFor known start result) :
    Accounts start result := by
  cases result with
  | ok value after => exact account
  | error stop after =>
      cases stop with
      | absent => exact account
      | defect fault => exact trivial
      | invalid =>
          obtain ⟨below, found, some_found, _, added⟩ := account
          exact ⟨below, found, some_found, added⟩

section

variable {β : Type} {known : Issue → Prop} {start : Report}

theorem AccountsFor.bind {next : α → Walk β} (first : AccountsFor known start (walk start))
    (later : ∀ value, AccountsFor known start (next value start)) :
    AccountsFor known start ((walk >>= next) start) := by
  cases run : walk start with
  | ok value after =>
      rw [run] at first
      obtain rfl : after = start := first
      rw [EStateM.bind_of_ok run]
      exact later value
  | error stop after =>
      rw [run] at first
      rw [EStateM.bind_of_error run]
      cases stop with
      | absent => exact first
      | invalid => exact first
      | defect fault => exact trivial

/-- Issues below a part are issues below the whole, one step further down. -/
theorem AccountsFor.within {segment : Segment}
    (part : AccountsFor known (start.enter segment) (walk (start.enter segment))) :
    AccountsFor known start (Walk.within segment walk start) := by
  unfold Walk.within
  cases run : walk (start.enter segment) with
  | ok value after =>
      rw [run] at part
      obtain rfl : after = start.enter segment := part
      exact rfl
  | error stop after =>
      rw [run] at part
      cases stop with
      | absent => exact part
      | defect fault => exact trivial
      | invalid =>
          obtain ⟨below, found, some_found, named, rfl⟩ := part
          have added := start.leave_adding_enter segment below found
          exact ⟨below ++ [segment], found, some_found, named, added⟩

theorem AccountsFor.optional (same : AccountsFor known start (walk start)) :
    AccountsFor known start (Walk.optional walk start) := by
  unfold Walk.optional
  cases run : walk start with
  | ok value after =>
      rw [run] at same
      exact same
  | error stop after =>
      rw [run] at same
      cases stop with
      | absent => exact same.elim
      | invalid => exact same
      | defect fault => exact trivial

/-- The walk is tried with no issue, so that it leaves none when it comes to a value. -/
theorem AccountsFor.attempt
    (apart : AccountsFor known { start with issues := [] } (walk { start with issues := [] })) :
    AccountsFor known start (Walk.attempt walk start) := by
  unfold Walk.attempt
  cases run : walk { start with issues := [] } with
  | ok value after =>
      rw [run] at apart
      obtain rfl : after = { start with issues := [] } := apart
      exact rfl
  | error stop after =>
      rw [run] at apart
      cases stop with
      | absent => exact apart.elim
      | defect fault => exact trivial
      | invalid =>
          obtain ⟨below, found, _, _, rfl⟩ := apart
          exact rfl

end

/-- A regular walk accounts for every issue, and none tells of another limit than its own.  The
induction is on the steps that the walk is put together from. -/
theorem Regular.accountsFor (regular : Regular codec walk) (start : Report) :
    AccountsFor (Issue.NamesLimit codec.options.maxDepth) start (walk start) := by
  induction regular generalizing start with
  | value found => exact rfl
  | refusal issue more named =>
      rw [refuse_run]
      have added := start.foldl_add_eq_adding issue more
      exact ⟨[], issue :: more, List.cons_ne_nil _ _, named, added⟩
  | fault fault => exact trivial
  | bind _ _ first later => exact (first start).bind fun value => later value start
  | within segment _ inside => exact (inside (start.enter segment)).within
  | optional _ inside => exact (inside start).optional
  | attempt _ inside => exact (inside { start with issues := [] }).attempt

theorem Regular.accounts (regular : Regular codec walk) (start : Report) :
    Accounts start (walk start) :=
  (regular.accountsFor start).accounts

/-- A whole walk that fails on the data names one path, with at least one issue. -/
theorem Regular.issues_of_conclude (regular : Regular codec walk) {failure : Failure}
    (failed : conclude walk = .error (.invalid failure)) :
    ∃ below found, found ≠ [] ∧ (∀ issue ∈ found, issue.NamesLimit codec.options.maxDepth) ∧
      failure.issues = [(({ path := below } : Report).pathText, found)] := by
  have account := regular.accountsFor {}
  unfold conclude at failed
  cases run : walk {} with
  | ok value after =>
      rw [run] at account failed
      obtain rfl : after = {} := account
      cases failed
  | error stop after =>
      rw [run] at account failed
      cases stop with
      | absent => exact account.elim
      | defect fault => cases failed
      | invalid =>
          obtain ⟨below, found, some_found, named, rfl⟩ := account
          cases failed
          exact ⟨below, found, some_found, named, Report.issues_adding_empty below found⟩

/-- A whole walk that comes to a value has found no issue. -/
theorem Regular.hasIssues_of_ok (regular : Regular codec walk) {value : α} {after : Report}
    (run : walk {} = .ok value after) : after.hasIssues = false := by
  have account := regular.accounts {}
  rw [run] at account
  obtain rfl : after = {} := account
  rfl

end Walk

namespace Codec

open Walk

/-- Decoding and encoding account for their issues from every report and with any number of levels
left, which a walk is given and cannot change.  A failure names one path with at least one issue,
and a value is never discarded for issues found on the way. -/
theorem walks_account (codec : Codec) (node : Node) :
    (∀ levels wire start, Accounts start (codec.decodeWithin levels node wire start)) ∧
    (∀ levels value start, Accounts start (codec.encodeWithin levels node value start)) ∧
    (∀ wire failure, codec.decode node wire = .error (.invalid failure) →
      ∃ below found, found ≠ [] ∧
        failure.issues = [(({ path := below } : Report).pathText, found)]) ∧
    (∀ value failure, codec.encode node value = .error (.invalid failure) →
      ∃ below found, found ≠ [] ∧
        failure.issues = [(({ path := below } : Report).pathText, found)]) ∧
    (∀ wire value after, codec.decodeWithin codec.options.maxDepth node wire {} = .ok value after →
      after.hasIssues = false) ∧
    (∀ value wire after, codec.encodeWithin codec.options.maxDepth node value {} = .ok wire after →
      after.hasIssues = false) := by
  have decodes (levels : Nat) (wire : Json) := regular_decodeWithin codec levels node wire
  have encodes (levels : Nat) (value : Value) := regular_encodeWithin codec levels node value
  refine ⟨?_, ?_, ?_, ?_, ?_, ?_⟩
  · intro levels wire start
    exact (decodes levels wire).accounts start
  · intro levels value start
    exact (encodes levels value).accounts start
  · intro wire failure failed
    obtain ⟨below, found, some_found, _, named⟩ := (decodes _ wire).issues_of_conclude failed
    exact ⟨below, found, some_found, named⟩
  · intro value failure failed
    obtain ⟨below, found, some_found, _, named⟩ := (encodes _ value).issues_of_conclude failed
    exact ⟨below, found, some_found, named⟩
  · intro wire value after run
    exact (decodes _ wire).hasIssues_of_ok run
  · intro value wire after run
    exact (encodes _ value).hasIssues_of_ok run

/-- A list of integers takes no text in either direction, and an empty list leaves no issue. -/
theorem walks_account_along_integers :
    let codec : Codec := { types := {} }
    let node := Node.list (.builtIn .int)
    (∃ failure, codec.decode node (.array [.string "one"]) = .error (.invalid failure) ∧
      ∃ below found, found ≠ [] ∧
        failure.issues = [(({ path := below } : Report).pathText, found)]) ∧
    (∃ failure, codec.encode node (.list [.string "one"]) = .error (.invalid failure) ∧
      ∃ below found, found ≠ [] ∧
        failure.issues = [(({ path := below } : Report).pathText, found)]) ∧
    (∃ after, codec.decodeWithin codec.options.maxDepth node (.array []) {} =
      .ok (.list []) after ∧ after.hasIssues = false) ∧
    (∃ after, codec.encodeWithin codec.options.maxDepth node (.list []) {} =
      .ok (.array []) after ∧ after.hasIssues = false) := by
  intro codec node
  obtain ⟨_, _, decoded, encoded, kept, kept'⟩ := walks_account codec node
  refine ⟨⟨_, rfl, ?_⟩, ⟨_, rfl, ?_⟩, ⟨_, rfl, ?_⟩, ⟨_, rfl, ?_⟩⟩
  · exact decoded (.array [.string "one"]) _ rfl
  · exact encoded (.list [.string "one"]) _ rfl
  · exact kept (.array []) _ _ rfl
  · exact kept' (.list []) _ _ rfl

end Codec

end Schemata
