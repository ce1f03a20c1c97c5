import Schemata.Parser.Extension
import Schemata.Proofs.Outcome
import Schemata.Proofs.Parser.PartingTypes

/-!
# Rules that are added to a grammar

What a parser without additional rules reads is read the same with any of them, whatever they apply
to: in the text itself, in the texts of aliases and in those of host classes.
-/

namespace Schemata.Parser

/-- With further rules, a parser keeps what it reads, level by level. -/
theorem keeps_typeWithin_of_added (registry : TypeRegistry) (maxDepth : Nat)
    (extensions : List Rule) (site : Site) (levels : Nat) :
    Parting.whole.Keeps (Parser.typeWithin { registry, maxDepth } levels site)
      (Parser.typeWithin { registry, maxDepth, extensions } levels site) :=
  keeps_typeWithin (rules_eq_builtIn registry maxDepth) rfl rfl rfl (List.Subset.refl _)
    (fun _ => Parting.bridges_whole) levels

/-- Whatever a parser without additional rules reads in a context, it reads with any additional
rules. -/
theorem parseIn_of_added (registry : TypeRegistry) (maxDepth : Nat) (extensions : List Rule)
    (context : ParsingContext) {text : String} {node : Node}
    (success : Parser.parseIn { registry, maxDepth } context text = .ok node) :
    Parser.parseIn { registry, maxDepth, extensions } context text = .ok node :=
  Parting.readText_of_keeps
    (keeps_typeWithin_of_added registry maxDepth extensions { registry, context } maxDepth) success

/-- Names of a point, of a class with points and of its shape. -/
def places : TypeRegistry :=
  TypeRegistry.addObject
    { aliases := [("Point", "array\x7bx: int, y: int, label?: string\x7d")] }
    { name := "Place"
      shape := .object none
        [{ name := "at", typeText := "Point" }, { name := "title", typeText := "string" }]
      flatten := fun hosted => .ok (hosted.fields.getD []) }

/-- A rule that claims strings, and others, do not change how a selection from a class is read. -/
theorem parseIn_of_added_to_places :
    ∃ node,
      Parser.parseIn { registry := places, maxDepth := 64 } {}
          "Pick<Place, 'title'> | list<Point> | string" = .ok node ∧
        Parser.parseIn
          { registry := places, maxDepth := 64
            extensions := [Rule.shadow, Rule.pair, Rule.money, Rule.brand, Rule.uuid] } {}
          "Pick<Place, 'title'> | list<Point> | string" = .ok node := by
  have read : (Parser.parseIn { registry := places, maxDepth := 64 } {}
      "Pick<Place, 'title'> | list<Point> | string").toOption.isSome = true := by
    decide +kernel
  obtain ⟨node, success⟩ := Option.isSome_iff_exists.mp read
  have parsed := Except.toOption_eq_some_iff.mp success
  exact ⟨node, parsed, parseIn_of_added places 64 _ {} parsed⟩

end Schemata.Parser
