import Schemata.NodeRegistry
import Schemata.Proofs.Dictionary

/-!
# Lookups of a session

Answering a query looks keys up, one after the other.  Which ones, and what is found under them, is
up to what the registry holds and not to what has been built; all that changes is that the entries
under these keys have been built.
-/

namespace Schemata.NodeRegistry

/-- A call that looks nodes up: one node, a chain of references, or all references of a node. -/
inductive Query where
  | get (key : String)
  | follow (node : Node)
  | resolve (node : Node)

/-- Answers a query, given how a key is looked up: with `get` as a session answers it, with
`lookup` as a registry that stays as it is. -/
def Query.serve {m : Type → Type} [Monad m] [MonadExceptOf LookupError m]
    (look : String → m Node) : Query → m Node
  | .get key => look key
  | .follow node => followWith look maxSteps node
  | .resolve node => resolveWith look (maxSteps + 1) node

/-- A key that is looked up, and what is found under it. -/
structure Lookup where
  key : String
  result : Except LookupError Node

/-- A session that keeps its lookups, the last one first. -/
abbrev Recorded := EStateM LookupError (NodeRegistry × List Lookup)

/-- Looks a key up as a session does, and keeps what comes of it. -/
def record (key : String) : Recorded Node := fun (registry, earlier) =>
  match (get key).run registry with
  | .ok node after => .ok node (after, ⟨key, .ok node⟩ :: earlier)
  | .error cause after => .error cause (after, ⟨key, .error cause⟩ :: earlier)

def answer (registry : NodeRegistry) (query : Query) : Except LookupError Node :=
  match (query.serve get).run registry with
  | .ok node _ => .ok node
  | .error cause _ => .error cause

def afterQuery (registry : NodeRegistry) (query : Query) : NodeRegistry :=
  match (query.serve get).run registry with
  | .ok _ after => after
  | .error _ after => after

/-- The lookups that a session makes to answer a query, in order. -/
def lookups (registry : NodeRegistry) (query : Query) : List Lookup :=
  match (query.serve record).run (registry, []) with
  | .ok _ after => after.2.reverse
  | .error _ after => after.2.reverse

/-! ## Entries that have been built -/

variable {α β : Type} {registry other : NodeRegistry} {found more : List Lookup}

/-- Building an entry changes nothing else under any key. -/
theorem get?_markBuilt (registry : NodeRegistry) (key other : String) :
    Dict.get? (registry.markBuilt key).entries other =
      (Dict.get? registry.entries other).map fun entry =>
        if other = key then { entry with isBuilt := true } else entry := by
  unfold markBuilt
  cases present : Dict.get? registry.entries key with
  | none =>
      by_cases same : other = key
      · simp [same, present]
      · simp [same]
  | some entry =>
      obtain ⟨outcome, isBuilt⟩ := entry
      cases isBuilt with
      | true =>
          by_cases same : other = key
          · simp [same, present]
          · simp [same]
      | false => by_cases same : other = key <;> simp [same, present, Dict.get?_insert]

/-- What is found under a key does not depend on what has been built. -/
theorem lookup_markBuilt (registry : NodeRegistry) (key other : String) :
    (registry.markBuilt key).lookup other = registry.lookup other := by
  unfold lookup
  rw [get?_markBuilt]
  cases Dict.get? registry.entries other with
  | none => rfl
  | some entry =>
      by_cases same : other = key
      · simp [same, Entry.node]
      · simp [same]

/-- The registry when the entries under the keys of some lookups have been built. -/
def markAll (registry : NodeRegistry) (found : List Lookup) : NodeRegistry :=
  found.foldl (fun registry lookup => registry.markBuilt lookup.key) registry

theorem markAll_append (registry : NodeRegistry) (found more : List Lookup) :
    registry.markAll (found ++ more) = (registry.markAll found).markAll more :=
  List.foldl_append

theorem lookup_markAll (registry : NodeRegistry) (found : List Lookup) (key : String) :
    (registry.markAll found).lookup key = registry.lookup key := by
  induction found generalizing registry with
  | nil => rfl
  | cons first rest ih => exact (ih (registry.markBuilt first.key)).trans (lookup_markBuilt ..)

/-! ## Sessions side by side -/

/-- The registry holds what some lookups have found. -/
def Finds (registry : NodeRegistry) (found : List Lookup) : Prop :=
  ∀ lookup ∈ found, registry.lookup lookup.key = lookup.result

theorem finds_append :
    registry.Finds (found ++ more) ↔ registry.Finds found ∧ registry.Finds more :=
  List.forall_mem_append

theorem Finds.markAll (finds : registry.Finds found) (more : List Lookup) :
    (registry.markAll more).Finds found := by
  intro lookup member
  rw [lookup_markAll]
  exact finds lookup member

/-- A run that comes to a result and leaves a state. -/
def ended {σ : Type} (state : σ) : Except LookupError α → EStateM.Result LookupError σ α
  | .ok value => .ok value state
  | .error cause => .error cause state

theorem get_run (registry : NodeRegistry) (key : String) :
    (get key).run registry = ended (registry.markBuilt key) (registry.lookup key) := by
  have reads : (getThe NodeRegistry : Session NodeRegistry).run registry = .ok registry registry :=
    rfl
  unfold get
  rw [EStateM.run_bind, reads]
  dsimp only
  rw [EStateM.run_bind, EStateM.run_set]
  dsimp only
  cases registry.lookup key <;> rfl

theorem record_run (registry : NodeRegistry) (earlier : List Lookup) (key : String) :
    (record key).run (registry, earlier) =
      ended (registry.markBuilt key, ⟨key, registry.lookup key⟩ :: earlier)
        (registry.lookup key) := by
  have plain := get_run registry key
  unfold record
  simp only [EStateM.run] at plain ⊢
  rw [plain]
  cases registry.lookup key <;> rfl

/-- With every registry that holds what some lookups have found, a session makes these lookups and
comes to the result, and so does its recorded form. -/
def Makes (found : List Lookup) (session : Session α) (recorded : Recorded α)
    (result : Except LookupError α) : Prop :=
  ∀ registry : NodeRegistry, registry.Finds found → ∀ earlier,
    session.run registry = ended (registry.markAll found) result ∧
      recorded.run (registry, earlier) =
        ended (registry.markAll found, found.reverse ++ earlier) result

/-- A session and its recorded form make the same lookups in a registry, and come to the result. -/
def Tracks (registry : NodeRegistry) (session : Session α) (recorded : Recorded α)
    (result : Except LookupError α) : Prop :=
  ∃ found, registry.Finds found ∧ Makes found session recorded result

namespace Tracks

theorem ok (value : α) : registry.Tracks (pure value) (pure value) (pure value) :=
  ⟨[], by simp [Finds], fun _ _ _ => ⟨rfl, rfl⟩⟩

theorem error (cause : LookupError) :
    registry.Tracks (throw cause : Session α) (throw cause) (throw cause) :=
  ⟨[], by simp [Finds], fun _ _ _ => ⟨rfl, rfl⟩⟩

/-- A single lookup finds what the registry holds under the key. -/
theorem look (key : String) : registry.Tracks (get key) (record key) (registry.lookup key) := by
  refine ⟨[⟨key, registry.lookup key⟩], by simp [Finds], fun other finds earlier => ?_⟩
  have same : other.lookup key = registry.lookup key := finds _ (List.mem_singleton_self _)
  rw [get_run, record_run, same]
  exact ⟨rfl, rfl⟩

theorem bind {first : Session α} {first' : Recorded α} {result : Except LookupError α}
    {next : α → Session β} {next' : α → Recorded β} {result' : α → Except LookupError β}
    (here : registry.Tracks first first' result)
    (later : ∀ value, registry.Tracks (next value) (next' value) (result' value)) :
    registry.Tracks (first >>= next) (first' >>= next') (result >>= result') := by
  obtain ⟨found, finds, makes⟩ := here
  cases result with
  | error cause =>
      refine ⟨found, finds, fun other holds earlier => ?_⟩
      obtain ⟨plain, kept⟩ := makes other holds earlier
      constructor
      · rw [EStateM.run_bind, plain]
        rfl
      · rw [EStateM.run_bind, kept]
        rfl
  | ok value =>
      obtain ⟨more, finds', makes'⟩ := later value
      refine ⟨found ++ more, finds_append.mpr ⟨finds, finds'⟩, fun other holds earlier => ?_⟩
      obtain ⟨holds, holds'⟩ := finds_append.mp holds
      obtain ⟨plain, kept⟩ := makes other holds earlier
      obtain ⟨plain', kept'⟩ := makes' _ (holds'.markAll found) (found.reverse ++ earlier)
      rw [markAll_append, List.reverse_append, List.append_assoc]
      constructor
      · rw [EStateM.run_bind, plain]
        exact plain'
      · rw [EStateM.run_bind, kept]
        exact kept'

theorem mapM {change : α → Session β} {change' : α → Recorded β}
    {result : α → Except LookupError β} (items : List α)
    (each : ∀ item ∈ items, registry.Tracks (change item) (change' item) (result item)) :
    registry.Tracks (items.mapM change) (items.mapM change') (items.mapM result) := by
  induction items with
  | nil => exact .ok []
  | cons item rest ih =>
      obtain ⟨here, later⟩ := List.forall_mem_cons.mp each
      rw [List.mapM_cons, List.mapM_cons, List.mapM_cons]
      exact here.bind fun value => (ih later).bind fun values => .ok (value :: values)

/-- Changing the children of a node makes the lookups that the children make, in their order. -/
theorem mapChildren {change : Node → Session Node} {change' : Node → Recorded Node}
    {result : Node → Except LookupError Node}
    (each : ∀ child, registry.Tracks (change child) (change' child) (result child)) (node : Node) :
    registry.Tracks (node.mapChildren change) (node.mapChildren change')
      (node.mapChildren result) := by
  cases node with
  | ref | builtIn | literal | enumeration | dateTime => exact .ok _
  | list item | record item | constrained item _ | cast item _ _ | branded item _
  | named item _ => exact (each item).bind fun _ => .ok _
  | tuple members | union members _ | intersection members _ =>
      exact (mapM members fun child _ => each child).bind fun _ => .ok _
  | struct kind properties =>
      have changed := mapM properties fun property _ =>
        (each property.node).bind fun node => .ok { property with node }
      exact changed.bind fun _ => .ok _

theorem followWith (hops : Nat) (node : Node) :
    registry.Tracks (followWith get hops node) (followWith record hops node)
      (followWith registry.lookup hops node) := by
  induction hops generalizing node with
  | zero =>
      cases node with
      | ref key => exact .error _
      | _ => exact .ok _
  | succ hops ih =>
      cases node with
      | ref key => exact (look key).bind ih
      | _ => exact .ok _

theorem resolveWith (steps : Nat) (node : Node) :
    registry.Tracks (resolveWith get steps node) (resolveWith record steps node)
      (resolveWith registry.lookup steps node) := by
  induction steps generalizing node with
  | zero => cases node <;> exact .error _
  | succ steps ih =>
      cases node with
      | ref key => exact (look key).bind ih
      | _ => exact mapChildren ih _

theorem serve (query : Query) :
    registry.Tracks (query.serve get) (query.serve record) (query.serve registry.lookup) := by
  cases query with
  | get key => exact look key
  | follow node => exact followWith maxSteps node
  | resolve node => exact resolveWith (maxSteps + 1) node

end Tracks

/-! ## Queries -/

variable {query : Query}

/-- Some lookups and a result stand for a query: with every registry that holds what they have
found, they are the lookups made and the result is the answer. -/
theorem exists_lookups (registry : NodeRegistry) (query : Query) :
    ∃ found, registry.Finds found ∧ ∀ other : NodeRegistry, other.Finds found →
      other.lookups query = found ∧ other.answer query = query.serve registry.lookup ∧
        other.afterQuery query = other.markAll found := by
  obtain ⟨found, finds, makes⟩ := @Tracks.serve registry query
  refine ⟨found, finds, fun other holds => ?_⟩
  obtain ⟨plain, kept⟩ := makes other holds []
  unfold lookups answer afterQuery
  rw [plain, kept]
  cases query.serve registry.lookup <;> simp [ended]

/-- A lookup finds what the registry holds under its key. -/
theorem finds_lookups (registry : NodeRegistry) (query : Query) :
    registry.Finds (registry.lookups query) := by
  obtain ⟨found, finds, same⟩ := registry.exists_lookups query
  rwa [(same registry finds).1]

/-- The lookups of a query determine it: with every registry that holds what they have found, the
same lookups are made and the same answer is given. -/
theorem query_eq_of_finds (holds : other.Finds (registry.lookups query)) :
    other.lookups query = registry.lookups query ∧ other.answer query = registry.answer query := by
  obtain ⟨found, finds, same⟩ := registry.exists_lookups query
  obtain ⟨made, answered, -⟩ := same registry finds
  rw [made] at holds ⊢
  rw [answered]
  exact ⟨(same other holds).1, (same other holds).2.1⟩

/-- A query builds the entries under the keys it looks up, and does nothing else. -/
theorem afterQuery_eq (registry : NodeRegistry) (query : Query) :
    registry.afterQuery query = registry.markAll (registry.lookups query) := by
  obtain ⟨found, finds, same⟩ := registry.exists_lookups query
  obtain ⟨made, -, after⟩ := same registry finds
  rw [made, after]

end Schemata.NodeRegistry
