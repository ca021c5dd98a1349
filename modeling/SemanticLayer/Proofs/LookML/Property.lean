import SemanticLayer.Proofs.LookML.Layout
namespace SemanticLayer.LookML

/-! What the items of a file say: the values behind keys, and the blocks of a kind.

A property that may be absent is written like any other (`optionalProperty`), so the value behind
its key is read in the same way, and all items that are emitted can be read back. -/

variable {key other keyword value : String} {items first second : List Item}
  {α : Type} {records : List α} {itemOf : α → Item}

namespace Item

def keyword? : Item → Option String
  | .block keyword _ _ => some keyword
  | _ => none

def name : Item → String
  | .block _ name _ => name
  | _ => ""

def body : Item → List Item
  | .block _ _ items => items
  | _ => []

def valueAt? (key : String) : Item → Option (List Char)
  | .line content => if keyOf content.toList = key then some (valueOf content.toList) else none
  | _ => none

end Item

/-- The value on the first line with `key`. -/
def valueAt? (key : String) (items : List Item) : Option (List Char) :=
  items.findSome? (Item.valueAt? key)

def blocksOf (keyword : String) (items : List Item) : List Item :=
  items.filter fun item => item.keyword? == some keyword

theorem optionalString_eq (key : String) (value : Option String) :
    optionalString key value = optionalProperty key (value.map quote) := by
  cases value <;> rfl

theorem optionalSql_eq (key : String) (value : Option String) :
    optionalSql key value = optionalProperty key (value.map sqlText) := by
  cases value <;> rfl

theorem sqlLine_eq (key sql : String) : sqlLine key sql = propertyLine key (sqlText sql) := rfl

theorem listLine_eq (key : String) (words : List String) :
    listLine key words = propertyLine key (listText words) := rfl

theorem flagProperty_eq (key : String) (value : Bool) :
    flagProperty key value = optionalProperty key (if value then some "yes" else none) := by
  cases value <;> rfl

@[simp] theorem spaced_nil : spaced [] = [] := rfl

@[simp] theorem spaced_cons {item : Item} : spaced (item :: items) = .blank :: item :: spaced items := rfl

theorem eq_blank_or_mem_of_mem_spaced {item : Item} (member : item ∈ spaced items) :
    item = .blank ∨ item ∈ items := by
  obtain ⟨spacedItem, itemMember, inside⟩ := List.mem_flatMap.mp member
  simp only [List.mem_cons, List.not_mem_nil, or_false] at inside
  rcases inside with blank | same
  · exact .inl blank
  · exact .inr (same ▸ itemMember)

@[simp] theorem valueAt?_nil : valueAt? key [] = none := rfl

@[simp] theorem valueAt?_cons_blank : valueAt? key (.blank :: items) = valueAt? key items := rfl

@[simp] theorem valueAt?_cons_block {name : String} {body : List Item} :
    valueAt? key (.block keyword name body :: items) = valueAt? key items := rfl

@[simp] theorem valueAt?_append :
    valueAt? key (first ++ second) = (valueAt? key first).or (valueAt? key second) :=
  List.findSome?_append

@[simp] theorem valueAt?_cons_line (valid : isValidName other) :
    valueAt? key (.line (propertyLine other value) :: items) =
      if other = key then some value.toList else valueAt? key items := by
  rw [valueAt?, List.findSome?_cons, Item.valueAt?, keyOf_propertyLine valid, valueOf_propertyLine valid]
  by_cases same : other = key
  · rw [if_pos same, if_pos same]
  · rw [if_neg same, if_neg same]
    rfl

@[simp] theorem valueAt?_optionalProperty {value : Option String} (valid : isValidName other) :
    valueAt? key (optionalProperty other value) =
      if other = key then value.map String.toList else none := by
  cases value with
  | none => exact (ite_self none).symm
  | some text => exact valueAt?_cons_line valid

theorem valueAt?_spaced_map (each : ∀ record, (itemOf record).keyword? = some other) :
    valueAt? key (spaced (records.map itemOf)) = none := by
  refine List.findSome?_eq_none_iff.mpr fun item member => ?_
  rcases eq_blank_or_mem_of_mem_spaced member with rfl | blockMember
  · rfl
  · obtain ⟨record, _, rfl⟩ := List.mem_map.mp blockMember
    have opened := each record
    cases read : itemOf record with
    | block keyword name items => rfl
    | _ => simp [read, Item.keyword?] at opened

@[simp] theorem blocksOf_nil : blocksOf keyword [] = [] := rfl

@[simp] theorem blocksOf_append :
    blocksOf keyword (first ++ second) = blocksOf keyword first ++ blocksOf keyword second :=
  List.filter_append ..

@[simp] theorem blocksOf_cons_blank : blocksOf keyword (.blank :: items) = blocksOf keyword items := rfl

@[simp] theorem blocksOf_cons_line {content : String} :
    blocksOf keyword (.line content :: items) = blocksOf keyword items := rfl

@[simp] theorem blocksOf_cons_block {name : String} {body : List Item} :
    blocksOf keyword (.block other name body :: items) =
      if other = keyword then .block other name body :: blocksOf keyword items
      else blocksOf keyword items := by
  simp [blocksOf, List.filter_cons, Item.keyword?]

@[simp] theorem blocksOf_optionalProperty {value : Option String} :
    blocksOf keyword (optionalProperty key value) = [] := by
  cases value <;> rfl

@[simp] theorem blocksOf_header {options : EmitOptions} : blocksOf keyword (header options) = [] := by
  unfold header
  split <;> rfl

theorem blocksOf_spaced : blocksOf keyword (spaced items) = blocksOf keyword items := by
  induction items with
  | nil => rfl
  | cons item rest ih =>
      rw [spaced_cons, blocksOf_cons_blank, ← List.singleton_append, blocksOf_append, ih,
        ← blocksOf_append, List.singleton_append]

/-- The records of one kind are all among the blocks of their keyword. -/
theorem blocksOf_spaced_map (each : ∀ record, (itemOf record).keyword? = some other) :
    blocksOf keyword (spaced (records.map itemOf)) =
      if other = keyword then records.map itemOf else [] := by
  rw [blocksOf_spaced]
  split
  case isTrue same =>
    refine List.filter_eq_self.mpr fun item member => ?_
    obtain ⟨record, _, rfl⟩ := List.mem_map.mp member
    rw [each, same, beq_self_eq_true]
  case isFalse differ =>
    refine List.filter_eq_nil_iff.mpr fun item member => ?_
    obtain ⟨record, _, rfl⟩ := List.mem_map.mp member
    simpa [each] using differ

theorem readable_line (valid : isValidName key) (written : IsValue value) :
    (Item.line (propertyLine key value)).Readable :=
  .line (isPlainLine_propertyLine valid written)

theorem readables_optionalProperty {value : Option String} (valid : isValidName key)
    (written : ∀ text ∈ value, IsValue text) : Readables (optionalProperty key value) := by
  intro item member
  obtain ⟨text, textMember, rfl⟩ := List.mem_map.mp member
  exact readable_line valid (written text (Option.mem_toList.mp textMember))

theorem readables_optionalName {value : Option String} (valid : isValidName key)
    (named : ∀ name ∈ value, isValidName name) : Readables (optionalProperty key value) :=
  readables_optionalProperty valid fun name member => isValue_of_isValidName (named name member)

theorem readables_optionalString {value : Option String} (valid : isValidName key) :
    Readables (optionalString key value) := by
  rw [optionalString_eq]
  refine readables_optionalProperty valid fun text member => ?_
  obtain ⟨plain, _, rfl⟩ := Option.map_eq_some_iff.mp member
  exact isValue_quote plain

theorem readables_optionalSql {value : Option String} (valid : isValidName key) :
    Readables (optionalSql key value) := by
  rw [optionalSql_eq]
  refine readables_optionalProperty valid fun text member => ?_
  obtain ⟨sql, _, rfl⟩ := Option.map_eq_some_iff.mp member
  exact isValue_sqlText sql

theorem readables_flagProperty {value : Bool} (valid : isValidName key) :
    Readables (flagProperty key value) := by
  rw [flagProperty_eq]
  refine readables_optionalName valid fun name member => ?_
  cases value with
  | false => cases member
  | true =>
      rw [← Option.some_inj.mp member]
      decide

theorem readables_spaced_map (each : ∀ record ∈ records, (itemOf record).Readable) :
    Readables (spaced (records.map itemOf)) := by
  intro item member
  rcases eq_blank_or_mem_of_mem_spaced member with rfl | blockMember
  · exact .blank
  · obtain ⟨record, recordMember, rfl⟩ := List.mem_map.mp blockMember
    exact each record recordMember

end SemanticLayer.LookML
