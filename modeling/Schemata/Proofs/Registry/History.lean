import Schemata.Proofs.Registry.Lookups

/-!
# Runs of a registry

What is put under a key is built by the first lookup of that key and by none after it, whatever else
is called in between.  Until something else is put there, every lookup of the key finds the same, be
it a node or the error of the build.  A query that looks a key up nowhere does not depend on what is
under it.
-/

namespace Schemata.NodeRegistry

inductive Call where
  | insert (key : String) (outcome : Except SyntaxError Node)
  | insertNode (key : String) (node : Node)
  | query (query : Query)
  | contains (key : String)

def Call.insertedKey? : Call → Option String
  | .insert key _ | .insertNode key _ => some key
  | .query _ | .contains _ => none

def withEntry (registry : NodeRegistry) (key : String) (entry : Entry) : NodeRegistry :=
  { registry with entries := Dict.insert registry.entries key entry }

def after (registry : NodeRegistry) : Call → NodeRegistry
  | .insert key outcome => registry.insert key outcome
  | .insertNode key node => registry.insertNode key node
  | .query query => registry.afterQuery query
  | .contains _ => registry

def lookupsOf (registry : NodeRegistry) : Call → List Lookup
  | .query query => registry.lookups query
  | .insert .. | .insertNode .. | .contains _ => []

def afterAll (registry : NodeRegistry) (calls : List Call) : NodeRegistry :=
  calls.foldl after registry

/-- The lookups that some calls make, in order. -/
def lookupsIn (registry : NodeRegistry) : List Call → List Lookup
  | [] => []
  | call :: rest => registry.lookupsOf call ++ (registry.after call).lookupsIn rest

def keysOf (found : List Lookup) : List String :=
  found.map Lookup.key

@[simp] theorem keysOf_nil : keysOf [] = [] := rfl

@[simp] theorem keysOf_singleton (lookup : Lookup) : keysOf [lookup] = [lookup.key] := rfl

@[simp] theorem keysOf_append (found more : List Lookup) :
    keysOf (found ++ more) = keysOf found ++ keysOf more :=
  List.map_append

variable {registry other before middle last : NodeRegistry} {found more : List Lookup}
  {key put : String} {call : Call} {calls : List Call}

/-! ## Entries -/

/-- The builds that a key awaits: one when there is an entry that has not been built. -/
def pending (registry : NodeRegistry) (key : String) : Nat :=
  match Dict.get? registry.entries key with
  | some entry => if entry.isBuilt then 0 else 1
  | none => 0

theorem lookup_withEntry (registry : NodeRegistry) (put name : String) (entry : Entry) :
    (registry.withEntry put entry).lookup name =
      if name = put then entry.node put else registry.lookup name := by
  unfold lookup withEntry
  dsimp only
  rw [Dict.get?_insert]
  by_cases same : name = put
  · simp [same]
  · simp [same]

theorem pending_withEntry (registry : NodeRegistry) (put name : String) (entry : Entry) :
    (registry.withEntry put entry).pending name =
      if name = put then (if entry.isBuilt then 0 else 1) else registry.pending name := by
  unfold pending withEntry
  dsimp only
  rw [Dict.get?_insert]
  by_cases same : name = put <;> simp [same]

/-- Putting something under a key looks nothing up. -/
theorem exists_entry (puts : call.insertedKey? = some put) :
    ∃ entry, ∀ registry : NodeRegistry,
      registry.after call = registry.withEntry put entry ∧ registry.lookupsOf call = [] := by
  cases call with
  | insert key outcome =>
      obtain rfl := Option.some.inj puts
      exact ⟨⟨outcome, false⟩, fun _ => ⟨rfl, rfl⟩⟩
  | insertNode key node =>
      obtain rfl := Option.some.inj puts
      exact ⟨⟨.ok node, true⟩, fun _ => ⟨rfl, rfl⟩⟩
  | query => cases puts
  | contains => cases puts

/-- A call that puts nothing anywhere builds what it looks up, and does nothing else. -/
theorem after_of_insertedKey?_eq_none (registry : NodeRegistry) (puts : call.insertedKey? = none) :
    registry.after call = registry.markAll (registry.lookupsOf call) ∧
      registry.Finds (registry.lookupsOf call) := by
  cases call with
  | insert => cases puts
  | insertNode => cases puts
  | query query => exact ⟨afterQuery_eq registry query, finds_lookups registry query⟩
  | contains => exact ⟨rfl, by simp [Finds, lookupsOf]⟩

/-- A key is known when something is found under it, be it an error. -/
theorem contains_eq_false_iff :
    registry.contains key = false ↔ registry.lookup key = .error (.unknownKey key) := by
  unfold contains lookup
  rw [Dict.contains_eq_isSome]
  cases Dict.get? registry.entries key with
  | none => simp
  | some entry => cases outcome : entry.outcome <;> simp [Entry.node, outcome, Except.mapError]

theorem pending_of_contains_eq_false (absent : registry.contains key = false) :
    registry.pending key = 0 := by
  unfold contains at absent
  rw [Dict.contains_eq_isSome, Option.isSome_eq_false_iff, Option.isNone_iff_eq_none] at absent
  rw [pending, absent]

/-! ## Until something is put under a key -/

/-- A later registry has under a key what an earlier one has.  The lookups between them find that,
and build it if it awaits its build. -/
structure Settles (before after : NodeRegistry) (found : List Lookup) (key : String) : Prop where
  lookup_eq : after.lookup key = before.lookup key
  result_eq : ∀ lookup ∈ found, lookup.key = key → lookup.result = before.lookup key
  pending_eq : after.pending key = if key ∈ keysOf found then 0 else before.pending key
  builds_count :
    after.builds.count key + after.pending key = before.builds.count key + before.pending key

theorem Settles.refl (registry : NodeRegistry) (key : String) : Settles registry registry [] key :=
  ⟨rfl, by simp, by simp, rfl⟩

theorem Settles.trans (first : Settles before middle found key)
    (second : Settles middle last more key) : Settles before last (found ++ more) key where
  lookup_eq := second.lookup_eq.trans first.lookup_eq
  result_eq lookup member same := by
    rcases List.mem_append.mp member with earlier | later
    · exact first.result_eq lookup earlier same
    · exact (second.result_eq lookup later same).trans first.lookup_eq
  pending_eq := by
    rw [second.pending_eq, first.pending_eq, keysOf_append]
    by_cases later : key ∈ keysOf more <;> simp [later]
  builds_count := second.builds_count.trans first.builds_count

/-- Looking a key up builds it as often as it awaits that. -/
theorem builds_markBuilt (registry : NodeRegistry) (key : String) :
    (registry.markBuilt key).builds =
      List.replicate (registry.pending key) key ++ registry.builds := by
  unfold markBuilt pending
  cases Dict.get? registry.entries key with
  | none => rfl
  | some entry => cases built : entry.isBuilt <;> simp [built]

theorem pending_markBuilt (registry : NodeRegistry) (looked key : String) :
    (registry.markBuilt looked).pending key = if key = looked then 0 else registry.pending key := by
  unfold pending
  rw [get?_markBuilt]
  cases Dict.get? registry.entries key with
  | none => simp
  | some entry => by_cases same : key = looked <;> simp [same]

/-- A single lookup settles every key. -/
theorem settles_markBuilt (registry : NodeRegistry) (looked key : String) :
    Settles registry (registry.markBuilt looked) [⟨looked, registry.lookup looked⟩] key where
  lookup_eq := lookup_markBuilt ..
  result_eq := by
    rintro lookup member rfl
    rw [List.mem_singleton.mp member]
  pending_eq := by simp [pending_markBuilt]
  builds_count := by
    rw [pending_markBuilt, builds_markBuilt, List.count_append, List.count_replicate]
    by_cases same : key = looked
    · simp [same, Nat.add_comm]
    · simp [same, Ne.symm same]

theorem settles_markAll (finds : registry.Finds found) (key : String) :
    Settles registry (registry.markAll found) found key := by
  induction found generalizing registry with
  | nil => exact .refl registry key
  | cons first rest ih =>
      obtain ⟨here, later⟩ := List.forall_mem_cons.mp finds
      have single := settles_markBuilt registry first.key key
      rw [here] at single
      exact single.trans (ih (Finds.markAll later [first]))

/-- A call that puts nothing under a key settles it. -/
theorem settles_after (registry : NodeRegistry) (quiet : call.insertedKey? ≠ some key) :
    Settles registry (registry.after call) (registry.lookupsOf call) key := by
  cases puts : call.insertedKey? with
  | none =>
      obtain ⟨same, finds⟩ := after_of_insertedKey?_eq_none registry puts
      rw [same]
      exact settles_markAll finds key
  | some put =>
      have apart : key ≠ put := fun same => quiet (puts.trans (congrArg some same.symm))
      obtain ⟨entry, same⟩ := exists_entry puts
      rw [(same registry).1, (same registry).2]
      have unchanged := pending_withEntry registry put key entry
      rw [if_neg apart] at unchanged
      exact ⟨by simp [lookup_withEntry, apart], by simp, by simp [unchanged],
        congrArg (registry.builds.count key + ·) unchanged⟩

theorem settles_afterAll (registry : NodeRegistry)
    (quiet : ∀ call ∈ calls, call.insertedKey? ≠ some key) :
    Settles registry (registry.afterAll calls) (registry.lookupsIn calls) key := by
  induction calls generalizing registry with
  | nil => exact .refl registry key
  | cons call rest ih =>
      obtain ⟨here, later⟩ := List.forall_mem_cons.mp quiet
      exact (settles_after registry here).trans (ih (registry.after call) later)

/-- Some calls build a key that many times.  They, and a lookup after them, find one thing under
it. -/
structure Keeps (registry : NodeRegistry) (calls : List Call) (key : String) (runs : Nat)
    (result : Except LookupError Node) : Prop where
  builds_count : (registry.afterAll calls).builds.count key = registry.builds.count key + runs
  result_of_lookup : ∀ lookup ∈ registry.lookupsIn calls, lookup.key = key → lookup.result = result
  answer_get : (registry.afterAll calls).answer (.get key) = result

theorem answer_get (registry : NodeRegistry) (key : String) :
    registry.answer (.get key) = registry.lookup key := by
  simp only [answer, Query.serve, get_run]
  cases registry.lookup key <;> rfl

/-- Calls that put nothing under a key build it once, if it awaits that and they look it up. -/
theorem keeps_of_quiet (registry : NodeRegistry)
    (quiet : ∀ call ∈ calls, call.insertedKey? ≠ some key) :
    registry.Keeps calls key
      (if key ∈ keysOf (registry.lookupsIn calls) then registry.pending key else 0)
      (registry.lookup key) := by
  obtain ⟨same, results, awaited, count⟩ := settles_afterAll registry quiet
  refine ⟨?_, results, (answer_get ..).trans same⟩
  rw [awaited] at count
  split at count
  next looked => simpa [looked] using count
  next unseen => simpa [unseen] using count

/-! ## Below other keys -/

/-- Two registries answer the same unless a key is looked up, which they agree on. -/
structure SameBesides (key : String) (registry other : NodeRegistry) : Prop where
  contains_eq : ∀ name, name ≠ key → registry.contains name = other.contains name
  looks_up_iff : ∀ query, key ∈ keysOf (registry.lookups query) ↔ key ∈ keysOf (other.lookups query)
  query_eq : ∀ query, key ∉ keysOf (registry.lookups query) →
    registry.lookups query = other.lookups query ∧ registry.answer query = other.answer query

/-- Two registries hold the same under every key but one. -/
def HoldSame (key : String) (registry other : NodeRegistry) : Prop :=
  ∀ name, name ≠ key → registry.lookup name = other.lookup name

theorem HoldSame.after (same : HoldSame key registry other) (call : Call) :
    HoldSame key (registry.after call) (other.after call) := by
  intro name apart
  cases puts : call.insertedKey? with
  | none =>
      rw [(after_of_insertedKey?_eq_none registry puts).1,
        (after_of_insertedKey?_eq_none other puts).1, lookup_markAll, lookup_markAll]
      exact same name apart
  | some put =>
      obtain ⟨entry, equal⟩ := exists_entry puts
      rw [(equal registry).1, (equal other).1, lookup_withEntry, lookup_withEntry, same name apart]

theorem HoldSame.afterAll (same : HoldSame key registry other) (calls : List Call) :
    HoldSame key (registry.afterAll calls) (other.afterAll calls) := by
  induction calls generalizing registry other with
  | nil => exact same
  | cons call rest ih => exact ih (same.after call)

theorem HoldSame.symm (same : HoldSame key registry other) : HoldSame key other registry :=
  fun name apart => (same name apart).symm

theorem HoldSame.query_eq (same : HoldSame key registry other) {query : Query}
    (unseen : key ∉ keysOf (registry.lookups query)) :
    other.lookups query = registry.lookups query ∧ other.answer query = registry.answer query := by
  refine query_eq_of_finds fun lookup member => ?_
  have apart : lookup.key ≠ key := fun equal =>
    unseen (List.mem_map.mpr ⟨lookup, member, equal⟩)
  rw [← same lookup.key apart]
  exact finds_lookups registry query lookup member

theorem HoldSame.sameBesides (same : HoldSame key registry other) :
    SameBesides key registry other where
  contains_eq name apart := by
    rw [Bool.eq_iff_iff, ← Bool.not_eq_false, ← Bool.not_eq_false, contains_eq_false_iff,
      contains_eq_false_iff, same name apart]
  looks_up_iff query := by
    constructor
    · intro seen
      by_contra unseen
      rw [(same.symm.query_eq unseen).1] at seen
      exact unseen seen
    · intro seen
      by_contra unseen
      rw [(same.query_eq unseen).1] at seen
      exact unseen seen
  query_eq query unseen :=
    have ⟨looked, answered⟩ := same.query_eq unseen
    ⟨looked.symm, answered.symm⟩

/-- What is put under a key is built once if the key is looked up before something else is put
there, and never otherwise; a node that is put there as it is, is never built.  Until then all
lookups of the key come to one result, the node or the error of the build, and there is nothing
under a key that is not known.  Whatever is put under a key, and whatever is called then, a query
that does not look the key up makes the same lookups and gets the same answer as without it. -/
theorem built_by_first_lookup (registry : NodeRegistry) (key : String) (calls : List Call)
    (quiet : ∀ call ∈ calls, call.insertedKey? ≠ some key) :
    (∀ outcome, registry.Keeps (.insert key outcome :: calls) key
      (if key ∈ keysOf (registry.lookupsIn (.insert key outcome :: calls)) then 1 else 0)
      (outcome.mapError (.unbuildable key))) ∧
    (∀ node, registry.Keeps (.insertNode key node :: calls) key 0 (.ok node)) ∧
    (registry.contains key = false → registry.Keeps calls key 0 (.error (.unknownKey key))) ∧
    ∀ put : Call, put.insertedKey? = some key → ∀ later : List Call,
      SameBesides key ((registry.after put).afterAll later) (registry.afterAll later) := by
  refine ⟨fun outcome => ?_, fun node => ?_, fun absent => ?_, fun put puts later => ?_⟩
  · have kept := keeps_of_quiet (registry.withEntry key ⟨outcome, false⟩) quiet
    rw [pending_withEntry, lookup_withEntry, if_pos rfl, if_pos rfl] at kept
    exact ⟨kept.builds_count, kept.result_of_lookup, kept.answer_get⟩
  · have kept := keeps_of_quiet (registry.withEntry key ⟨.ok node, true⟩) quiet
    rw [pending_withEntry, lookup_withEntry, if_pos rfl, if_pos rfl] at kept
    simp only [if_true, ite_self] at kept
    exact ⟨kept.builds_count, kept.result_of_lookup, kept.answer_get⟩
  · have kept := keeps_of_quiet registry quiet
    rw [pending_of_contains_eq_false absent, contains_eq_false_iff.mp absent, ite_self] at kept
    exact kept
  · refine (HoldSame.afterAll (fun name apart => ?_) later).sameBesides
    obtain ⟨entry, equal⟩ := exists_entry puts
    rw [(equal registry).1, lookup_withEntry, if_neg apart]

/-- A registry with a reference to a key that is not known. -/
def aliased : NodeRegistry :=
  ({} : NodeRegistry).insertNode "alias" (.ref "int")

/-- The key is looked up at the end of a reference below a list, and then by itself. -/
def aliasedCalls : List Call :=
  [.query (.resolve (.list (.ref "alias"))), .contains "alias", .query (.get "int")]

theorem built_behind_a_reference :
    (∀ call ∈ aliasedCalls, call.insertedKey? ≠ some "int") ∧
      aliased.Keeps (.insert "int" (.ok (.builtIn .int)) :: aliasedCalls) "int" 1
        (.ok (.builtIn .int)) := by
  have quiet : ∀ call ∈ aliasedCalls, call.insertedKey? ≠ some "int" := by decide
  have kept := (built_by_first_lookup aliased "int" aliasedCalls quiet).1 (.ok (.builtIn .int))
  rw [if_pos (by decide)] at kept
  exact ⟨quiet, kept⟩

end Schemata.NodeRegistry
