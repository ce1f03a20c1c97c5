import Schemata.Codec.Encode
import Schemata.Proofs.Node.Shape

/-!
# What a walk looks at

A walk sees a node through its outermost shape, the walks of its children and the texts by which
problems describe nodes.  Two nodes of one shape with children that are walked and described alike
are themselves walked alike, with the same reports.
-/

namespace Schemata

open List (Forall₂)

namespace Walk

variable {α β : Type}

theorem items_zip_congr {walk walk' : Node → β → Walk α} {lefts rights : List Node}
    (pairwise : Forall₂ (fun left right => ∀ value, walk left value = walk' right value)
      lefts rights) (index : Nat) (values : List β) :
    items (fun pair => walk pair.1 pair.2) index (lefts.zip values) =
      items (fun pair => walk' pair.1 pair.2) index (rights.zip values) := by
  induction pairwise generalizing index values with
  | nil => rfl
  | cons here _ ih =>
      cases values with
      | nil => rfl
      | cons value rest => simp only [List.zip_cons_cons, items, here, ih]

theorem elements_congr {walk walk' : Node → β → Walk α} {lefts rights : List Node}
    (pairwise : Forall₂ (fun left right => ∀ value, walk left value = walk' right value)
      lefts rights) (values : List β) :
    elements walk lefts values = elements walk' rights values := by
  rw [elements, elements, items_zip_congr pairwise, pairwise.length_eq]

theorem properties_congr {walk walk' : Node → β → Walk α} {lefts rights : List (Property Node)}
    (pairwise : Forall₂ (Property.Related fun left right =>
      ∀ value, walk left value = walk' right value) lefts rights) (members : Dict β) :
    properties walk members lefts = properties walk' members rights := by
  induction pairwise with
  | nil => rfl
  | cons here _ ih => simp only [properties, here.name, here.optional, here.node, ih]

theorem firstOf_congr {γ : Type} {walk walk' : γ → Walk α} {lefts rights : List γ}
    (pairwise : Forall₂ (fun left right => walk left = walk' right) lefts rights) :
    firstOf walk lefts = firstOf walk' rights := by
  induction pairwise with
  | nil => rfl
  | cons here _ ih => simp only [firstOf, here, ih]

end Walk

namespace Codec

variable {left right : Codec} {node other : Node}

theorem invalidType_congr {α : Type} (described : left.describe node = right.describe other)
    (actual : String) :
    (left.invalidType node actual : Walk α) = right.invalidType other actual := by
  rw [invalidType, invalidType, described]

theorem fieldsOf_congr (types : left.types = right.types) (hosted : HostInstance) :
    left.fieldsOf hosted = right.fieldsOf hosted := by
  simp only [fieldsOf, hostClass, types]

theorem entriesOf_congr (types : left.types = right.types) (value : Value) :
    left.entriesOf value = right.entriesOf value := by
  cases value <;> simp only [entriesOf, fieldsOf_congr types]

/-- Two nodes that two codecs describe and walk alike. -/
structure WalkedAlike {α β : Type} (left right : Codec) (walk walk' : Node → β → Walk α)
    (node other : Node) : Prop where
  described : left.describe node = right.describe other
  walked : ∀ value, walk node value = walk' other value

/-! ## Decoding -/

section Decoding

variable {child child' : Node → Json → Walk Value}

theorem decodeFirst_congr (described : left.describe node = right.describe other)
    {members others : List Node}
    (pairwise : Forall₂ (WalkedAlike left right child child') members others) (wire : Json) :
    left.decodeFirst child node members wire = right.decodeFirst child' other others wire := by
  have walks : Walk.firstOf (child · wire) members = Walk.firstOf (child' · wire) others :=
    Walk.firstOf_congr (pairwise.imp fun _ _ alike => alike.walked wire)
  simp only [decodeFirst, walks, described]

theorem decodeArm_congr (described : left.describe node = right.describe other)
    {members others : List Node}
    (pairwise : Forall₂ (WalkedAlike left right child child') members others)
    (discriminator : Discriminator) (wire : Json) :
    left.decodeArm child node members discriminator wire =
      right.decodeArm child' other others discriminator wire := by
  cases wire with
  | object entries =>
      simp only [decodeArm]
      cases Dict.get? entries discriminator.field with
      | none => rfl
      | some tag =>
          dsimp only
          cases discriminator.armFor? tag with
          | none => rfl
          | some arm =>
              dsimp only [Option.bind_some]
              generalize members[arm]? = here, others[arm]? = there,
                forall₂_getElem? pairwise arm = found
              cases found with
              | some alike => exact alike.walked _
              | none => rfl
  | null | bool | number | string | array => exact invalidType_congr described _

theorem decodeMembers_congr (types : left.types = right.types) {members others : List Node}
    (pairwise : Forall₂ (WalkedAlike left right child child') members others) (wire : Json)
    (merged : Dict Value) :
    left.decodeMembers child wire merged members =
      right.decodeMembers child' wire merged others := by
  induction pairwise generalizing merged with
  | nil => rfl
  | cons here _ ih =>
      simp only [decodeMembers, here.walked, ih, entriesOf_congr types,
        invalidType_congr here.described]

theorem build_congr (types : left.types = right.types)
    (described : left.describe node = right.describe other) (target : String)
    (strategy : CastingStrategy) (value : Value) :
    left.build node target strategy value = right.build other target strategy value := by
  simp only [build, hostClass, types, invalidType_congr described]

/-- Nodes of one shape with children that are decoded alike are decoded alike. -/
theorem decodeShape_congr (types : left.types = right.types)
    (coerces : left.options.coercePrimitives = right.options.coercePrimitives)
    (shape : Node.SameShape (WalkedAlike left right child child') node other)
    (described : left.describe node = right.describe other) (wire : Json) :
    left.decodeShape child node wire = right.decodeShape child' other wire := by
  have mismatch (actual : String) : (left.invalidType node actual : Walk Value) =
      right.invalidType other actual := invalidType_congr described actual
  cases shape with
  | builtIn kind => simp only [decodeShape, primitive?, coerces, mismatch]
  | literal value =>
      have same : left.isLiteral value wire = right.isLiteral value wire := by
        unfold isLiteral
        rw [coerces]
      simp only [decodeShape, same, described]
  | enumeration name =>
      cases wire <;> simp only [decodeShape, decodeCase, enumCases, types, mismatch]
  | dateTime className format =>
      cases wire <;> simp only [decodeShape, decodeMoment, mismatch]
  | list item =>
      have walks := funext item.walked
      cases wire <;> simp only [decodeShape, walks, mismatch]
  | record item =>
      have walks := funext item.walked
      cases wire <;> simp only [decodeShape, walks, mismatch]
  | tuple elements =>
      have walks := Walk.elements_congr (elements.imp fun _ _ alike => alike.walked)
      cases wire <;> simp only [decodeShape, walks, mismatch]
  | struct kind properties =>
      have read := List.rel_filter (p := fun property => property.direction.isInput)
        (q := fun property => property.direction.isInput)
        (fun _ _ same => by simp [same.direction]) properties
      have walks := Walk.properties_congr (read.imp fun _ _ same =>
        ⟨same.name, same.optional, same.direction, same.node.walked⟩)
      cases wire <;> simp only [decodeShape, walks, mismatch]
  | union discriminator members =>
      cases discriminator with
      | none => exact decodeFirst_congr described members wire
      | some discriminator => exact decodeArm_congr described members discriminator wire
  | intersection kind members =>
      have walks := decodeMembers_congr types members wire
      cases wire <;> simp only [decodeShape, walks, mismatch]
  | constrained validators inner => simp only [decodeShape, inner.walked]
  | cast target strategy inner =>
      simp only [decodeShape, inner.walked, build_congr types inner.described]
  | branded tag inner => exact inner.walked wire
  | named name inner => exact inner.walked wire

end Decoding

/-! ## Encoding -/

section Encoding

variable {child child' : Node → Value → Walk Json}

theorem encodeFirst_congr (described : left.describe node = right.describe other)
    {members others : List Node}
    (pairwise : Forall₂ (WalkedAlike left right child child') members others) (value : Value) :
    left.encodeFirst child node members value = right.encodeFirst child' other others value := by
  have walks : Walk.firstOf (child · value) members = Walk.firstOf (child' · value) others :=
    Walk.firstOf_congr (pairwise.imp fun _ _ alike => alike.walked value)
  simp only [encodeFirst, walks, described]

def armIndex? (discriminator : Discriminator) (value : Value) : Option Nat := do
  let entries ← value.properties?
  let field ← Dict.get? entries discriminator.field
  let tag ← field.toJson?
  discriminator.armFor? tag

theorem armOf?_eq_bind (members : List Node) (discriminator : Discriminator) (value : Value) :
    armOf? members discriminator value = (armIndex? discriminator value).bind (members[·]?) := by
  simp only [armOf?, armIndex?, Option.bind_eq_bind, Option.bind_assoc]

/-- A discriminator selects arms at one place of two lists. -/
theorem armOf?_congr {related : Node → Node → Prop} {members others : List Node}
    (pairwise : Forall₂ related members others) (discriminator : Discriminator) (value : Value) :
    Option.Rel related (armOf? members discriminator value)
      (armOf? others discriminator value) := by
  rw [armOf?_eq_bind, armOf?_eq_bind]
  cases armIndex? discriminator value with
  | none => exact .none
  | some arm => exact forall₂_getElem? pairwise arm

theorem encodeMembers_congr {members others : List Node}
    (pairwise : Forall₂ (WalkedAlike left right child child') members others) (value : Value)
    (merged : Dict Json) :
    left.encodeMembers child value merged members =
      right.encodeMembers child' value merged others := by
  induction pairwise generalizing merged with
  | nil => rfl
  | cons here _ ih =>
      simp only [encodeMembers, here.walked, ih, invalidType_congr here.described]

/-- The value of a struct with some fields, of the kind that a node shows. -/
def fieldsValue (node : Node) (fields : Dict Value) : Value :=
  (node.structKind?.getD .object).value fields

/-- An instance is taken apart and encoded alike when the lists and the fields it can be taken apart
into are. -/
theorem flattened_bind_congr {α : Type} {next next' : Value → Walk α}
    (types : left.types = right.types) (described : left.describe node = right.describe other)
    (lists : ∀ items, next (.list items) = next' (.list items))
    (structs : ∀ fields, next (fieldsValue node fields) = next' (fieldsValue other fields))
    (target : String) (strategy : CastingStrategy) (hosted : HostInstance) :
    (left.flattened node target strategy hosted >>= next) =
      (right.flattened other target strategy hosted >>= next') := by
  unfold flattened
  split
  · rw [fieldsOf_congr types, bind_assoc, bind_assoc]
    refine bind_congr fun found => ?_
    cases found with
    | none => rfl
    | some fields =>
        cases strategy with
        | collection =>
            dsimp only
            split
            · exact lists _
            · rfl
        | constructor | assignProperties => exact structs fields
  · rw [invalidType_congr described]
    rfl

/-- Nodes of one shape with children that are encoded alike are encoded alike, when instances are
encoded alike under casts. -/
theorem encodeShape_congr (types : left.types = right.types)
    (shape : Node.SameShape (WalkedAlike left right child child') node other)
    (hosts : ∀ inner inner' target strategy, node = .cast inner target strategy →
      other = .cast inner' target strategy → ∀ hosted,
      (left.flattened inner target strategy hosted >>= child inner) =
        (right.flattened inner' target strategy hosted >>= child' inner'))
    (described : left.describe node = right.describe other) (value : Value) :
    left.encodeShape child node value = right.encodeShape child' other value := by
  have mismatch (actual : String) : (left.invalidType node actual : Walk Json) =
      right.invalidType other actual := invalidType_congr described actual
  cases shape with
  | builtIn kind => simp only [encodeShape, mismatch]
  | literal expected => simp only [encodeShape, described]
  | enumeration name =>
      cases value <;> simp only [encodeShape, encodeCase, enumCases, types, mismatch]
  | dateTime className format =>
      cases value <;> simp only [encodeShape, encodeMoment, mismatch]
  | list item =>
      have walks := funext item.walked
      cases value <;> simp only [encodeShape, walks, mismatch]
  | record item =>
      have walks := funext item.walked
      simp only [encodeShape, walks, mismatch]
  | tuple elements =>
      have walks := Walk.elements_congr (elements.imp fun _ _ alike => alike.walked)
      cases value <;> simp only [encodeShape, walks, mismatch]
  | struct kind properties =>
      have written := List.rel_filter (p := fun property => property.direction.isOutput)
        (q := fun property => property.direction.isOutput)
        (fun _ _ same => by simp [same.direction]) properties
      have walks := Walk.properties_congr (written.imp fun _ _ same =>
        ⟨same.name, same.optional, same.direction, same.node.walked⟩)
      simp only [encodeShape, walks, mismatch]
  | @union members others discriminator pairwise =>
      have trials := encodeFirst_congr described pairwise value
      have arms : Option.Rel (WalkedAlike left right child child')
          (discriminator.bind (armOf? members · value))
          (discriminator.bind (armOf? others · value)) := by
        cases discriminator with
        | none => exact .none
        | some discriminator => exact armOf?_congr pairwise discriminator value
      simp only [encodeShape]
      generalize discriminator.bind (armOf? members · value) = here,
        discriminator.bind (armOf? others · value) = there at arms
      cases arms with
      | some alike => exact alike.walked value
      | none => exact trials
  | intersection kind members =>
      simp only [encodeShape, entriesOf_congr types, encodeMembers_congr members, mismatch]
  | constrained validators inner => simp only [encodeShape, inner.walked]
  | cast target strategy inner =>
      cases value with
      | host className fields => exact hosts _ _ _ _ rfl rfl _
      | _ => exact inner.walked _
  | branded tag inner => exact inner.walked value
  | named name inner => exact inner.walked value

end Encoding

end Codec

end Schemata
