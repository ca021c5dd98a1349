import SemanticLayer.Proofs.LookML.Property
namespace SemanticLayer.LookML

open SemanticLayer.Order

/-! Reading the item of a view back.

`shown` is what a record has left of itself in its file: SQL on one line, quoted text without line
breaks, and nothing in the parts that are not written. -/

/-- A field with the view that it belongs to. -/
def IsQualified (field : String) : Prop :=
  ∃ view name, isValidName view ∧ isValidName name ∧ field = view ++ "." ++ name

theorem IsQualified.isWord {field : String} (qualified : IsQualified field) : IsWord field := by
  obtain ⟨view, name, validView, validName, rfl⟩ := qualified
  have point : IsWord "." := ⟨by decide, by simp⟩
  exact ((isWord_of_isValidName validView).append point).append (isWord_of_isValidName validName)

theorem isSome_ite_some {α : Type} (holds : Bool) (value : α) :
    (if holds then some value else none).isSome = holds := by
  cases holds <;> rfl

namespace DimensionField

variable {field : DimensionField}

structure WellNamed (field : DimensionField) : Prop where
  name : isValidName field.name
  type : ∀ type ∈ field.type, isValidName type

def shown (field : DimensionField) : DimensionField :=
  { field with
    sql := oneLineSql field.sql
    label := field.label.map unbroken
    description := field.description.map unbroken }

def ofItem (item : Item) : DimensionField :=
  { name := item.name
    type := (valueAt? "type" item.body).map String.ofList
    sql := sqlOf ((valueAt? "sql" item.body).getD [])
    isPrimaryKey := (valueAt? "primary_key" item.body).isSome
    isHidden := (valueAt? "hidden" item.body).isSome
    label := (valueAt? "label" item.body).map textOf
    description := (valueAt? "description" item.body).map textOf }

theorem ofItem_item (field : DimensionField) : ofItem field.item = field.shown := by
  simp (disch := decide) [ofItem, item, shown, Item.name, Item.body, optionalString_eq,
    flagProperty_eq, sqlLine_eq, Function.comp_def, isSome_ite_some]

theorem keyword?_item (field : DimensionField) : field.item.keyword? = some "dimension" := rfl

theorem readable_item (named : field.WellNamed) : field.item.Readable := by
  refine readable_block (by decide) named.name ?_
  simp only [readables_append, readables_cons, readables_nil, and_true, and_assoc]
  exact ⟨readables_flagProperty (by decide), readables_flagProperty (by decide),
    readables_optionalName (by decide) named.type,
    readables_optionalString (by decide), readables_optionalString (by decide),
    readable_line (by decide) (isValue_sqlText field.sql)⟩

end DimensionField

namespace DimensionGroup

variable {group : DimensionGroup}

structure WellNamed (group : DimensionGroup) : Prop where
  name : isValidName group.name
  timeframes : ∀ timeframe ∈ group.timeframes, isValidName timeframe

def shown (group : DimensionGroup) : DimensionGroup :=
  { group with
    sql := oneLineSql group.sql
    label := group.label.map unbroken
    description := group.description.map unbroken }

def ofItem (item : Item) : DimensionGroup :=
  { name := item.name
    timeframes := wordsOf ((valueAt? "timeframes" item.body).getD [])
    sql := sqlOf ((valueAt? "sql" item.body).getD [])
    label := (valueAt? "label" item.body).map textOf
    description := (valueAt? "description" item.body).map textOf }

theorem WellNamed.words (named : group.WellNamed) : ∀ timeframe ∈ group.timeframes, IsWord timeframe :=
  fun timeframe member => isWord_of_isValidName (named.timeframes timeframe member)

theorem ofItem_item (named : group.WellNamed) : ofItem group.item = group.shown := by
  have timeframes := wordsOf_listText named.words
  simp (disch := decide) [ofItem, item, shown, Item.name, Item.body, optionalString_eq, sqlLine_eq,
    listLine_eq, Function.comp_def, timeframes]

theorem keyword?_item (group : DimensionGroup) : group.item.keyword? = some "dimension_group" := rfl

theorem readable_item (named : group.WellNamed) : group.item.Readable := by
  refine readable_block (by decide) named.name ?_
  simp only [readables_append, readables_cons, readables_nil, and_true, and_assoc]
  exact ⟨readable_line (by decide) (isValue_of_isValidName (by decide)),
    readable_line (by decide) (isValue_listText named.words),
    readables_optionalString (by decide), readables_optionalString (by decide),
    readable_line (by decide) (isValue_sqlText group.sql)⟩

theorem WellNamed.isWord_of_mem_fieldNames (named : group.WellNamed) {field : String}
    (member : field ∈ group.fieldNames) : IsWord field := by
  obtain ⟨timeframe, timeframeMember, rfl⟩ := List.mem_map.mp member
  have underscore : IsWord "_" := isWord_of_isValidName (by decide)
  exact ((isWord_of_isValidName named.name).append underscore).append
    (named.words timeframe timeframeMember)

end DimensionGroup

/-- Measures of models and measures of metrics are told apart by their types. -/
def isMetric (item : Item) : Bool := valueAt? "type" item.body == some "number".toList

namespace MeasureField

variable {field : MeasureField}

structure WellNamed (field : MeasureField) : Prop where
  name : isValidName field.name
  type : isValidName field.type
  aggregates : field.type ≠ "number"

def shown (field : MeasureField) : MeasureField :=
  { field with
    sql := field.sql.map oneLineSql
    label := field.label.map unbroken
    description := field.description.map unbroken }

def ofItem (item : Item) : MeasureField :=
  { name := item.name
    type := String.ofList ((valueAt? "type" item.body).getD [])
    sql := (valueAt? "sql" item.body).map sqlOf
    label := (valueAt? "label" item.body).map textOf
    description := (valueAt? "description" item.body).map textOf }

theorem ofItem_item (field : MeasureField) : ofItem field.item = field.shown := by
  simp (disch := decide) [ofItem, item, shown, Item.name, Item.body, optionalString_eq,
    optionalSql_eq, Function.comp_def]

theorem isMetric_item (named : field.WellNamed) : isMetric field.item = false := by
  have differ : field.type.toList ≠ "number".toList :=
    fun same => named.aggregates (String.toList_injective same)
  have typed : valueAt? "type" field.item.body = some field.type.toList := by
    simp (disch := decide) [item, Item.body]
  rw [isMetric, typed, beq_eq_false_iff_ne]
  exact fun same => differ (Option.some_inj.mp same)

theorem keyword?_item (field : MeasureField) : field.item.keyword? = some "measure" := rfl

theorem readable_item (named : field.WellNamed) : field.item.Readable := by
  refine readable_block (by decide) named.name ?_
  simp only [readables_append, readables_cons, readables_nil, and_true, and_assoc]
  exact ⟨readable_line (by decide) (isValue_of_isValidName named.type),
    readables_optionalString (by decide), readables_optionalString (by decide),
    readables_optionalSql (by decide)⟩

end MeasureField

namespace MetricField

variable {field : MetricField}

structure WellNamed (field : MetricField) : Prop where
  name : isValidName field.name
  type : field.type = "number"
  requiredFields : ∀ required ∈ field.requiredFields, IsQualified required
  valueFormat : ∀ format ∈ field.valueFormat, isValidName format

def shown (field : MetricField) : MetricField :=
  { field with
    metric := ""
    sql := oneLineSql field.sql
    label := unbroken field.label
    description := field.description.map unbroken }

def ofItem (item : Item) : MetricField :=
  { name := item.name
    metric := ""
    type := String.ofList ((valueAt? "type" item.body).getD [])
    sql := sqlOf ((valueAt? "sql" item.body).getD [])
    requiredFields := ((valueAt? "required_fields" item.body).map wordsOf).getD []
    label := textOf ((valueAt? "label" item.body).getD [])
    description := (valueAt? "description" item.body).map textOf
    valueFormat := (valueAt? "value_format_name" item.body).map String.ofList }

theorem WellNamed.words (named : field.WellNamed) :
    ∀ required ∈ field.requiredFields, IsWord required :=
  fun required member => (named.requiredFields required member).isWord

theorem ofItem_item (named : field.WellNamed) : ofItem field.item = field.shown := by
  have requiredFields := wordsOf_listText named.words
  by_cases alone : field.requiredFields = [] <;>
    simp (disch := decide) [ofItem, item, shown, Item.name, Item.body, optionalString_eq, sqlLine_eq,
      stringLine, listLine_eq, Function.comp_def, requiredFields, alone]

theorem isMetric_item (named : field.WellNamed) : isMetric field.item := by
  simp (disch := decide) [isMetric, item, Item.body, named.type]

theorem keyword?_item (field : MetricField) : field.item.keyword? = some "measure" := rfl

theorem readable_item (named : field.WellNamed) : field.item.Readable := by
  refine readable_block (by decide) named.name ?_
  simp only [readables_append, readables_cons, readables_nil, and_true, and_assoc]
  have typed : IsValue field.type := by
    rw [named.type]
    exact isValue_of_isValidName (by decide)
  refine ⟨readable_line (by decide) typed,
    readable_line (by decide) (isValue_quote field.label), readables_optionalString (by decide),
    readable_line (by decide) (isValue_sqlText field.sql), ?_, ?_⟩
  · split
    · exact readables_nil
    · exact readables_cons.mpr
        ⟨readable_line (by decide) (isValue_listText named.words), readables_nil⟩
  · exact readables_optionalName (by decide) named.valueFormat

end MetricField

/-- Reading the items of many records. -/
theorem map_ofItem_map {α : Type} {records : List α} {itemOf : α → Item} {ofItem : Item → α}
    {shown : α → α} (each : ∀ record ∈ records, ofItem (itemOf record) = shown record) :
    (records.map itemOf).map ofItem = records.map shown := by
  rw [List.map_map]
  exact List.map_congr_left each

namespace View

variable {view : View}

structure WellNamed (view : View) : Prop where
  name : isValidName view.name
  dimensions : ∀ field ∈ view.dimensions, field.WellNamed
  groups : ∀ group ∈ view.groups, group.WellNamed
  measures : ∀ field ∈ view.measures, field.WellNamed
  metrics : ∀ field ∈ view.metrics, field.WellNamed

def shown (view : View) : View :=
  { name := view.name
    model := ""
    tableName := view.tableName.map oneLineSql
    description := view.description.map unbroken
    dimensions := view.dimensions.map DimensionField.shown
    groups := view.groups.map DimensionGroup.shown
    measures := view.measures.map MeasureField.shown
    metrics := view.metrics.map MetricField.shown }

def ofItem (item : Item) : View :=
  -- Both kinds of measures are blocks of one keyword.
  let measures := blocksOf "measure" item.body
  { name := item.name
    model := ""
    tableName := (valueAt? "sql_table_name" item.body).map sqlOf
    description := (valueAt? "description" item.body).map textOf
    dimensions := (blocksOf "dimension" item.body).map DimensionField.ofItem
    groups := (blocksOf "dimension_group" item.body).map DimensionGroup.ofItem
    measures := (measures.filter fun measure => !isMetric measure).map MeasureField.ofItem
    metrics := (measures.filter isMetric).map MetricField.ofItem }

theorem valueAt?_body (key : String) :
    valueAt? key view.item.body =
      (if "sql_table_name" = key then view.tableName.map fun sql => (sqlText sql).toList else none).or
        (if "description" = key then view.description.map fun text => (quote text).toList else none) := by
  simp +decide [item, Item.body, optionalSql_eq, optionalString_eq, Function.comp_def,
    valueAt?_spaced_map DimensionField.keyword?_item, valueAt?_spaced_map DimensionGroup.keyword?_item,
    valueAt?_spaced_map MeasureField.keyword?_item, valueAt?_spaced_map MetricField.keyword?_item]

theorem blocksOf_body (keyword : String) :
    blocksOf keyword view.item.body =
      (if "dimension" = keyword then view.dimensions.map DimensionField.item else []) ++
        (if "dimension_group" = keyword then view.groups.map DimensionGroup.item else []) ++
        (if "measure" = keyword then view.measures.map MeasureField.item else []) ++
        (if "measure" = keyword then view.metrics.map MetricField.item else []) ++
        (if "set" = keyword then
          [.block "set" dimensionsOnly [.line (listLine "fields" view.dimensionFields.items)]] else []) := by
  simp [item, Item.body, optionalSql_eq, optionalString_eq,
    blocksOf_spaced_map DimensionField.keyword?_item, blocksOf_spaced_map DimensionGroup.keyword?_item,
    blocksOf_spaced_map MeasureField.keyword?_item, blocksOf_spaced_map MetricField.keyword?_item]

theorem WellNamed.isMetric_of_mem_measures (named : view.WellNamed) :
    ∀ item ∈ view.measures.map MeasureField.item, isMetric item = false :=
  List.forall_mem_map.mpr fun field member => MeasureField.isMetric_item (named.measures field member)

theorem WellNamed.isMetric_of_mem_metrics (named : view.WellNamed) :
    ∀ item ∈ view.metrics.map MetricField.item, isMetric item = true :=
  List.forall_mem_map.mpr fun field member => MetricField.isMetric_item (named.metrics field member)

theorem measures_of_blocks (named : view.WellNamed) :
    (blocksOf "measure" view.item.body).filter (fun item => !isMetric item) =
      view.measures.map MeasureField.item := by
  have kept : (view.measures.map MeasureField.item).filter (fun item => !isMetric item) =
      view.measures.map MeasureField.item :=
    List.filter_eq_self.mpr fun item member => by rw [named.isMetric_of_mem_measures item member]; rfl
  have dropped : (view.metrics.map MetricField.item).filter (fun item => !isMetric item) = [] :=
    List.filter_eq_nil_iff.mpr fun item member => by simp [named.isMetric_of_mem_metrics item member]
  simp only [blocksOf_body, List.filter_append]
  simp [kept, dropped]

theorem metrics_of_blocks (named : view.WellNamed) :
    (blocksOf "measure" view.item.body).filter isMetric = view.metrics.map MetricField.item := by
  have kept : (view.metrics.map MetricField.item).filter isMetric = view.metrics.map MetricField.item :=
    List.filter_eq_self.mpr named.isMetric_of_mem_metrics
  have dropped : (view.measures.map MeasureField.item).filter isMetric = [] :=
    List.filter_eq_nil_iff.mpr fun item member => by simp [named.isMetric_of_mem_measures item member]
  simp only [blocksOf_body, List.filter_append]
  simp [kept, dropped]

theorem ofItem_item (named : view.WellNamed) : ofItem view.item = view.shown := by
  have dimensionsRead := map_ofItem_map fun field (_ : field ∈ view.dimensions) => field.ofItem_item
  have groupsRead := map_ofItem_map fun group member =>
    DimensionGroup.ofItem_item (named.groups group member)
  have measuresRead := map_ofItem_map fun field (_ : field ∈ view.measures) => field.ofItem_item
  have metricsRead := map_ofItem_map fun field member =>
    MetricField.ofItem_item (named.metrics field member)
  have dimensions : blocksOf "dimension" view.item.body = view.dimensions.map DimensionField.item := by
    simp [blocksOf_body]
  have groups : blocksOf "dimension_group" view.item.body = view.groups.map DimensionGroup.item := by
    simp [blocksOf_body]
  unfold ofItem
  simp only [measures_of_blocks named, metrics_of_blocks named, dimensions, groups, dimensionsRead,
    groupsRead, measuresRead, metricsRead]
  have name : view.item.name = view.name := rfl
  simp [shown, valueAt?_body, name, Function.comp_def]

theorem WellNamed.words (named : view.WellNamed) : ∀ field ∈ view.dimensionFields.items, IsWord field := by
  intro field member
  rcases List.mem_append.mp (SortedSet.mem_ofList.mp member) with dimension | timeframe
  · obtain ⟨single, singleMember, rfl⟩ := List.mem_map.mp dimension
    exact isWord_of_isValidName (named.dimensions single singleMember).name
  · obtain ⟨group, groupMember, inside⟩ := List.mem_flatMap.mp timeframe
    exact (named.groups group groupMember).isWord_of_mem_fieldNames inside

theorem readable_item (named : view.WellNamed) : view.item.Readable := by
  refine readable_block (by decide) named.name ?_
  simp only [readables_append, readables_cons, readables_nil, and_true, and_assoc, spaced_cons, spaced_nil]
  refine ⟨readables_optionalSql (by decide), readables_optionalString (by decide),
    readables_spaced_map fun field member => DimensionField.readable_item (named.dimensions field member),
    readables_spaced_map fun group member => DimensionGroup.readable_item (named.groups group member),
    readables_spaced_map fun field member => MeasureField.readable_item (named.measures field member),
    readables_spaced_map fun field member => MetricField.readable_item (named.metrics field member),
    .blank, readable_block (by decide) (by decide) ?_⟩
  exact readables_cons.mpr ⟨readable_line (by decide) (isValue_listText named.words), readables_nil⟩

end View

end SemanticLayer.LookML
