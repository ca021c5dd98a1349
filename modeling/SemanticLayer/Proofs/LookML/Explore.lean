import SemanticLayer.Proofs.LookML.View
namespace SemanticLayer.LookML

/-! Reading the item of an explore back. -/

namespace Join

variable {join : Join}

structure WellNamed (join : Join) : Prop where
  view : isValidName join.view
  type : isValidName join.type
  fields : ∀ field ∈ join.fields, ∃ plain, IsQualified plain ∧ (field = plain ∨ field = plain ++ "*")

def shown (join : Join) : Join := { join with condition := oneLineSql join.condition, hopCount := 0 }

def ofItem (item : Item) : Join :=
  { view := item.name
    condition := sqlOf ((valueAt? "sql_on" item.body).getD [])
    relationship :=
      if valueAt? "relationship" item.body = some Cardinality.manyToOne.tag.toList then .manyToOne
      else .oneToMany
    type := String.ofList ((valueAt? "type" item.body).getD [])
    hopCount := 0
    fields := wordsOf ((valueAt? "fields" item.body).getD []) }

theorem WellNamed.words (named : join.WellNamed) : ∀ field ∈ join.fields, IsWord field := by
  intro field member
  have star : IsWord "*" := ⟨by decide, by simp⟩
  obtain ⟨plain, qualified, rfl | rfl⟩ := named.fields field member
  · exact qualified.isWord
  · exact qualified.isWord.append star

theorem keyword?_item (join : Join) : join.item.keyword? = some "join" := rfl

theorem ofItem_item (named : join.WellNamed) : ofItem join.item = join.shown := by
  have fields := wordsOf_listText named.words
  cases related : join.relationship <;>
    simp (disch := decide) [ofItem, item, shown, Item.name, Item.body, sqlLine_eq, listLine_eq, fields,
      related, Cardinality.tag]

theorem readable_item (named : join.WellNamed) : join.item.Readable := by
  have relationship : isValidName join.relationship.tag := by
    cases join.relationship <;> decide
  refine readable_block (by decide) named.view ?_
  simp only [readables_cons, readables_nil, and_true]
  exact ⟨readable_line (by decide) (isValue_of_isValidName named.type),
    readable_line (by decide) (isValue_of_isValidName relationship),
    readable_line (by decide) (isValue_sqlText join.condition),
    readable_line (by decide) (isValue_listText named.words)⟩

end Join

namespace Explore

variable {explore : Explore}

structure WellNamed (explore : Explore) : Prop where
  name : isValidName explore.name
  baseView : isValidName explore.baseView
  joins : ∀ join ∈ explore.joins, join.WellNamed

def shown (explore : Explore) : Explore :=
  { explore with label := explore.label.map unbroken, joins := explore.joins.map Join.shown }

/-- An explore without the name of a view is based on the view of its own name. -/
def ofItem (item : Item) : Explore :=
  { name := item.name
    baseView := ((valueAt? "view_name" item.body).map String.ofList).getD item.name
    label := (valueAt? "label" item.body).map textOf
    joins := (blocksOf "join" item.body).map Join.ofItem }

theorem keyword?_item (explore : Explore) : explore.item.keyword? = some "explore" := rfl

theorem ofItem_item (named : explore.WellNamed) : ofItem explore.item = explore.shown := by
  have joinsRead := map_ofItem_map fun join member => Join.ofItem_item (named.joins join member)
  have joins : blocksOf "join" explore.item.body = explore.joins.map Join.item := by
    by_cases same : explore.name = explore.baseView <;>
      simp [item, Item.body, optionalString_eq, same, blocksOf_spaced_map Join.keyword?_item]
  unfold ofItem
  rw [joins, joinsRead]
  by_cases same : explore.name = explore.baseView <;>
    simp +decide [item, shown, Item.name, Item.body, optionalString_eq, same, Function.comp_def,
      valueAt?_spaced_map Join.keyword?_item]

theorem readable_item (named : explore.WellNamed) : explore.item.Readable := by
  refine readable_block (by decide) named.name ?_
  simp only [readables_append, and_assoc]
  refine ⟨?_, readables_optionalString (by decide),
    readables_spaced_map fun join member => Join.readable_item (named.joins join member)⟩
  split
  · exact readables_nil
  · exact readables_cons.mpr
      ⟨readable_line (by decide) (isValue_of_isValidName named.baseView), readables_nil⟩

end Explore

end SemanticLayer.LookML
