import Schemata.Bundle.Source
import Schemata.Proofs.Source.Modules

/-!
# The module a bundle is written out as

The lines of the module spell the tokens of its functions, and the functions are read back as the
table, the roots and the names of the bundle.
-/

namespace Schemata

namespace Source

open Schemata.Bundle Text
open Node (IsAccepted)

/-! ## The lines of a bundle -/

theorem covers_closure (node : Node) :
    Covers ("|| Ok(" ++ (Expression.ofNode node).render ++ ")").toList (closureTokens node) := by
  have bars := (delimits_mark '|' (by decide)).append
    ((delimits_mark '|' (by decide)).append delimits_blank)
  have accept : IsName "Ok" := isName_ofList (by decide)
  have call := (covers_name accept).round (.cons (covers_render _ (named_ofNode node)) .nil)
  have all := bars.before call
  rw [closureTokens, piece_closure, piece_round]
  simpa [Expression.commas, separated] using all

theorem passes_entryLine (entry : String × Node) :
    Passes [entryLine entry] (registration.tokens entry) := by
  have registry : IsName "registry" := isName_ofList (by decide)
  have insert : IsName "insert" := isName_ofList (by decide)
  have call := (covers_member (covers_name registry) insert).round
    (.cons (delimits_ofString entry.1).covers (.cons (covers_closure entry.2) .nil))
  have all := call.close (delimits_mark ';' (by decide))
  have indented := delimits_blank.before <| delimits_blank.before <| delimits_blank.before <|
    delimits_blank.before all
  have middle : piece registration.middle = [.mark ','] := (piece_ofList _).trans rfl
  have closing : piece registration.closing = [.mark ')', .mark ';'] := (piece_ofList _).trans rfl
  refine Covers.passes ?_
  rw [Frame.tokens, opening_registration, middle, closing]
  unfold entryLine
  simpa [Expression.commas, separated] using indented

theorem passes_rootLine (entry : String × Node) :
    Passes [rootLine entry] (selection.tokens entry) := by
  have arrow := delimits_blank.append
    ((delimits_mark '=' (by decide)).append
      ((delimits_mark '>' (by decide)).append delimits_blank))
  have arm := (delimits_ofString entry.1).covers.append arrow (covers_closure entry.2)
  have all := arm.close (delimits_mark ',' (by decide))
  have indented := delimits_blank.before <| delimits_blank.before <| delimits_blank.before <|
    delimits_blank.before <| delimits_blank.before <| delimits_blank.before <|
    delimits_blank.before <| delimits_blank.before all
  have middle : piece selection.middle = [.mark '=', .mark '>'] := (piece_ofList _).trans rfl
  have closing : piece selection.closing = [.mark ','] := (piece_ofList _).trans rfl
  refine Covers.passes ?_
  rw [Frame.tokens, opening_selection, middle, closing]
  unfold rootLine
  simpa using indented

theorem passes_headerLines : Passes headerLines (fixed Module.imports) :=
  .skip (passes_comment (by decide)) <| .skip (passes_comment (by decide +kernel)) <|
    .cons (passes_fixed (by decide)) <| .cons (passes_fixed (by decide +kernel)) <|
    .cons (passes_joined (by decide)) <| .cons (passes_fixed (by decide +kernel)) <|
    .cons (passes_fixed (by decide)) .nil

theorem passes_registryLines (table : Dict Node) : Passes (registryLines table)
    (registration.functionTokens Module.registryHead Module.registryTail table) := by
  rw [registryLines, List.append_assoc]
  refine .append ?_ (.append (.map fun entry _ => passes_entryLine entry) ?_)
  · exact .skip (passes_comment (by decide)) <| .cons (passes_fixed (by decide +kernel)) <|
      .cons (passes_fixed (by decide)) .nil
  · exact .cons (passes_fixed (by decide)) <| .cons (passes_fixed (by decide +kernel)) .nil

theorem passes_schemaLines (roots : Dict Node) : Passes (schemaLines roots)
    (selection.functionTokens Module.schemaHead Module.schemaTail roots) := by
  rw [schemaLines, List.append_assoc]
  refine .append ?_ (.append (.map fun entry _ => passes_rootLine entry) ?_)
  · exact .skip (passes_comment (by decide)) <| .cons (passes_fixed (by decide +kernel)) <|
      .cons (passes_fixed (by decide)) .nil
  · exact .cons (passes_fixed (by decide)) <| .cons (passes_fixed (by decide +kernel)) <|
      .cons (passes_fixed (by decide)) <| .cons (passes_fixed (by decide +kernel)) .nil

def namesTokens (names : List String) : List Token :=
  fixed Module.namesHead ++
    (piece "&" ++ ((Term.array (names.map .text)).tokens ++ fixed Module.namesTail))

theorem passes_namesLines (roots : Dict Node) :
    Passes (namesLines roots) (namesTokens (Dict.keys roots)) := by
  have each : List.Forall₂ (fun text run => Covers text.toList run)
      ((Dict.keys roots).map Escaped.ofString) (runs ((Dict.keys roots).map .text)) := by
    rw [runs_eq_map, List.map_map, List.forall₂_map_left_iff, List.forall₂_map_right_iff,
      List.forall₂_same]
    exact fun name _ => (delimits_ofString name).covers
  have listed := (delimits_mark '&' (by decide)).append (delimits_square each)
  have indented := delimits_blank.before <| delimits_blank.before <| delimits_blank.before <|
    delimits_blank.before listed.covers
  have borrowed : piece "&" = [.mark '&'] := (piece_ofList _).trans rfl
  have middle : Passes ["    &" ++ Escaped.ofStrings (Dict.keys roots)]
      (piece "&" ++ (Term.array ((Dict.keys roots).map .text)).tokens) := by
    refine Covers.passes ?_
    rw [borrowed]
    simpa [Escaped.ofStrings, Expression.commas, Term.tokens] using indented
  have head : Passes ["pub fn names() -> &'static [&'static str] \x7b"]
      (fixed Module.namesHead) := .cons (passes_fixed (by decide)) .nil
  have tail : Passes ["\x7d"] (fixed Module.namesTail) :=
    .cons (passes_fixed (by decide)) .nil
  have all := head.append (middle.append tail)
  rw [List.append_assoc] at all
  exact all

def bundleTokens (bundle : Bundle) : List Token :=
  fixed Module.imports ++
    (registration.functionTokens Module.registryHead Module.registryTail bundle.table ++
      (selection.functionTokens Module.schemaHead Module.schemaTail bundle.roots ++
        namesTokens (Dict.keys bundle.roots)))

theorem passes_sourceLines (bundle : Bundle) :
    Passes bundle.sourceLines (bundleTokens bundle) := by
  have all := ((passes_headerLines.spaced (passes_registryLines bundle.table)).spaced
    (passes_schemaLines bundle.roots)).spaced (passes_namesLines bundle.roots)
  rwa [List.append_assoc (fixed _), List.append_assoc (fixed _),
    List.append_assoc (Frame.functionTokens ..)] at all

theorem tokens?_source (bundle : Bundle) :
    tokens? bundle.source = some (bundleTokens bundle) := by
  have spells := passes_sourceLines bundle .nil
  rw [List.append_nil, List.append_nil] at spells
  have text : bundle.source.toList =
      bundle.sourceLines.flatMap fun line => line.toList ++ ['\n'] := by
    rw [Bundle.source, String.toList_join]
    simp [List.flatMap, Function.comp_def]
  rw [tokens?, text]
  exact spells.lex (Nat.le_refl _)

/-! ## Reading a bundle's module back -/

theorem closure?_registryTail (rest : List Token) :
    registration.closure? (fixed Module.registryTail ++ rest) = none := by
  have first : piece ("    registry" ++ "\n") = [.name "registry"] :=
    (piece_line _).trans (by decide)
  have second : piece ("\x7d" ++ "\n") = [.mark '\x7d'] := (piece_line _).trans rfl
  have tail : fixed Module.registryTail = [.name "registry", .mark '\x7d'] := by
    simp only [fixed, Module.registryTail, List.flatMap_cons, first, second]
    rfl
  rw [Frame.closure?, tail, opening_registration]
  rfl

theorem closure?_schemaTail (rest : List Token) :
    selection.closure? (fixed Module.schemaTail ++ rest) = none := by
  have first : (piece ("        _ => return None," ++ "\n")).head? = some (.name "_") := by
    rw [piece_line]
    decide
  obtain ⟨more, same⟩ := List.head?_eq_some_iff.mp first
  rw [Frame.closure?, opening_selection, fixed, Module.schemaTail, List.flatMap_cons, same]
  rfl

theorem names?_namesTokens (names : List String) :
    Module.names? (namesTokens names) = some (names, []) := by
  have closing : fixed Module.namesTail = [.mark '\x7d'] := by
    simp only [fixed, Module.namesTail, List.flatMap_cons]
    exact congrArg (· ++ _) ((piece_line _).trans rfl)
  have lacks : Lacks termMarks (fixed Module.namesTail) := by
    rw [closing]
    exact lacks_mark (by decide) []
  have term := (reads_term (.array (names.map .text))).whole lacks (Nat.lt_succ_self _)
  have contents : (names.map Term.text).mapM Module.content? = some names :=
    mapM_map_of_some fun _ => rfl
  have ended : (fixed Module.namesTail).dropPrefix? (fixed Module.namesTail) = some [] := by
    have all := dropPrefix?_append (fixed Module.namesTail) []
    rwa [List.append_nil] at all
  simp only [Module.names?, namesTokens, dropPrefix?_append, Option.bind_eq_bind,
    Option.bind_some, term, contents, ended]
  rfl

theorem read_eq_some {text : String} {all first second third : List Token}
    {entries arms : List Closure} {names : List String} (lexed : tokens? text = some all)
    (imported : all.dropPrefix? (fixed Module.imports) = some first)
    (registry : registration.function? Module.registryHead Module.registryTail first =
      some (entries, second))
    (schema : selection.function? Module.schemaHead Module.schemaTail second = some (arms, third))
    (listed : Module.names? third = some (names, [])) :
    Module.read text = some { entries, arms, names } := by
  simp only [Module.read, lexed, imported, registry, schema, listed, Option.bind_eq_bind,
    Option.bind_some]
  rfl

/-- The module of a bundle of accepted nodes builds them. -/
theorem read_source {bundle : Bundle}
    (table : ∀ entry ∈ bundle.table, entry.2.Everywhere IsAccepted)
    (roots : ∀ root ∈ bundle.roots, root.2.Everywhere IsAccepted) :
    Module.read bundle.source = some
      { entries := bundle.table.map Closure.of
        arms := bundle.roots.map Closure.of
        names := Dict.keys bundle.roots } := by
  exact read_eq_some (tokens?_source bundle) (dropPrefix?_append _ _)
    (function?_tokens table closure?_registryTail _) (function?_tokens roots closure?_schemaTail _)
    (names?_namesTokens _)

/-- What a registry holds of a closure that no lookup has run yet. -/
def Closure.entry (closure : Closure) : String × NodeRegistry.Entry :=
  (closure.1, { outcome := closure.2, isBuilt := false })

theorem foldl_insert (closures : List Closure) (registry : NodeRegistry) :
    closures.foldl (fun registry closure => registry.insert closure.1 closure.2) registry =
      { registry with entries := Dict.merge registry.entries (closures.map Closure.entry) } := by
  induction closures generalizing registry with
  | nil => rfl
  | cons closure rest ih => exact ih _

/-- Closures under ascending keys are registered as they stand. -/
theorem Module.registry_of_ascending {module : Module}
    (ascending : (module.entries.map Prod.fst).Pairwise (· < ·)) :
    module.registry = { entries := module.entries.map Closure.entry } := by
  have same : (module.entries.map Closure.entry).map Prod.fst = module.entries.map Prod.fst := by
    rw [List.map_map]
    rfl
  have entries : Dict.ofEntries (module.entries.map Closure.entry) =
      module.entries.map Closure.entry := Dict.ofEntries_of_ascending (by rwa [same])
  rw [Module.registry, foldl_insert]
  exact congrArg (NodeRegistry.mk · []) entries

end Source

namespace Bundle

open Node Sharing Source

/-- The module that a compiled bundle is written out as builds the bundle: its registry holds the
shared nodes under their keys, it builds each root under its name and no other root, and its names
are those of the schemas.  No constructor turns anything down. -/
theorem module_of_compile {schemas : Dict Node} {bundle : Bundle}
    (built : ∀ schema ∈ schemas, schema.2.Built) (compiled : compile schemas = .ok bundle) :
    ∃ module, Module.read bundle.source = some module ∧
      module.registry =
        { entries := bundle.table.map fun entry =>
            (entry.1, { outcome := .ok entry.2, isBuilt := false }) } ∧
      (∀ name, module.schema name = (bundle.root? name).map .ok) ∧
      module.names = Dict.keys schemas := by
  have refFree := allRefFree_of_built built compiled
  have shape := bundle_eq_of_compile refFree compiled
  refine ⟨_, read_source (fun _ => accepted_of_mem_table built compiled)
    (fun _ => accepted_of_mem_roots built compiled), ?_, fun name => ?_, ?_⟩
  · have ascending : (bundle.table.map Prod.fst).Pairwise (· < ·) := by
      rw [shape]
      exact ascending_storeAll List.Pairwise.nil (partsOf schemas)
    rw [Module.registry_of_ascending, List.map_map]
    · rfl
    · rwa [List.map_map]
  · exact Dict.get?_map _ _ _
  · have names : Dict.keys bundle.roots = Dict.keys schemas := by
      rw [shape, Dict.keys, List.map_map]
      rfl
    exact names

/-- A choice between the least integer and a text, and a struct with an optional property. -/
def catalogue : Dict Node :=
  [("least", .union [.literal (.int Int64.minValue), .literal (.string "\"none\"\n")] none),
    ("point", .struct .object
      [⟨"x", .builtIn .float, false, .both⟩, ⟨"y", .builtIn .float, true, .output⟩])]

theorem module_of_catalogue :
    ∃ bundle, compile catalogue = .ok bundle ∧ (∀ schema ∈ catalogue, schema.2.Built) ∧
      ∃ module, Module.read bundle.source = some module ∧
        module.registry =
          { entries := bundle.table.map fun entry =>
              (entry.1, { outcome := .ok entry.2, isBuilt := false }) } ∧
        (∀ name, module.schema name = (bundle.root? name).map .ok) ∧
        module.names = ["least", "point"] := by
  have refFree : AllRefFree catalogue := by
    intro schema among
    rcases List.mem_pair.mp among with rfl | rfl
    all_goals
      refine .intro rfl fun child inside => ?_
      rcases List.mem_pair.mp inside with rfl | rfl
      · exact .leaf rfl rfl
      · exact .leaf rfl rfl
  have built : ∀ schema ∈ catalogue, schema.2.Built := by
    intro schema among
    rcases List.mem_pair.mp among with rfl | rfl
    · refine .union (fun member inside => ?_) (unionOf_eq_ok_iff.mpr ⟨by decide, rfl⟩)
      rcases List.mem_pair.mp inside with rfl | rfl
      · exact .literal _
      · exact .literal _
    · refine .struct (fun property inside => ?_) (structOf_of_nodup (by simp) (by decide))
      rcases List.mem_pair.mp inside with rfl | rfl
      · exact .builtIn _
      · exact .builtIn _
  have compiled := compile_eq refFree
  exact ⟨_, compiled, built, module_of_compile built compiled⟩

end Bundle

end Schemata
