import SemanticLayer.ModelSet
namespace SemanticLayer

/-! Foreign-key links between the models of a set.

A foreign entity that names the primary entity of another model gives two links:
one from the foreign key to the primary key, and one back. -/

/-- How many rows of the joined model meet one row of the model it is joined to. -/
inductive Cardinality where
  | manyToOne | oneToMany
deriving DecidableEq, Repr, Inhabited

namespace Cardinality

def tag : Cardinality → String
  | .manyToOne => "many_to_one"
  | .oneToMany => "one_to_many"

def flip : Cardinality → Cardinality
  | .manyToOne => .oneToMany
  | .oneToMany => .manyToOne

end Cardinality

/-- `fromExpression` of the model `source` equals `toExpression` of the model `target`. -/
structure Link where
  source : String
  fromEntity : String
  fromExpression : String
  target : String
  toEntity : String
  toExpression : String
  cardinality : Cardinality
deriving DecidableEq, Repr, Inhabited

namespace Link

/-- The same equation read from the other side. -/
def flip (link : Link) : Link :=
  { source := link.target
    fromEntity := link.toEntity
    fromExpression := link.toExpression
    target := link.source
    toEntity := link.fromEntity
    toExpression := link.fromExpression
    cardinality := link.cardinality.flip }

/-- The join condition over columns. -/
def condition (link : Link) : String :=
  link.source ++ "." ++ link.fromExpression ++ " = " ++ link.target ++ "." ++ link.toExpression

@[simp] theorem flip_flip (link : Link) : link.flip.flip = link := by
  cases link with
  | mk _ _ _ _ _ _ cardinality => cases cardinality <;> rfl

/-- By target, then by the entity on the near side. -/
def le (first second : Link) : Bool :=
  first.target < second.target ||
    (first.target == second.target && decide (first.fromEntity ≤ second.fromEntity))

end Link

namespace ModelSet

/-- The link of one foreign entity, from the foreign key to the primary key. A
foreign entity that names no primary entity, or that of its own model, has none. -/
def foreignLink? (set : ModelSet) (model : SemanticModel) (foreign : Entity) : Option Link := do
  let owner ← set.ownerOfEntity? foreign.name
  if owner.name == model.name then none
  else do
    let primary ← owner.primaryEntity?
    return {
      source := model.name
      fromEntity := foreign.name
      fromExpression := foreign.expression
      target := owner.name
      toEntity := primary.name
      toExpression := primary.expression
      cardinality := .manyToOne }

/-- The links from foreign to primary keys, by model and then in order of declaration. -/
def foreignLinks (set : ModelSet) : List Link :=
  set.models.flatMap fun model => model.foreignEntities.filterMap (set.foreignLink? model)

/-- All links: each foreign link is followed by the same link read backwards. -/
def links (set : ModelSet) : List Link :=
  set.foreignLinks.flatMap fun link => [link, link.flip]

/-- The links that leave `model`, ordered by target and near entity. Among links that
agree in both the one declared last comes first. -/
def linksFrom (set : ModelSet) (model : String) : List Link :=
  Order.sorted Link.le (set.links.filter fun link => link.source == model).reverse

def linkCount (set : ModelSet) : Nat := set.foreignLinks.length

end ModelSet

end SemanticLayer
