import SemanticLayer.LookML.Explore
import SemanticLayer.LookML.Layout
namespace SemanticLayer.LookML

/-! The files: one for each view and one for all explores. -/

structure EmitOptions where
  indent : Indent := .spaces 2
  /-- Does every file start with a line that says where it comes from? -/
  includeHeader : Bool := true
deriving DecidableEq, Repr, Inhabited

def header (options : EmitOptions) : List Item :=
  if options.includeHeader then
    [.line (commentLine "Generated by lookgen 0.1.0. Do not edit."), .blank]
  else []

def optionalString (key : String) (value : Option String) : List Item :=
  value.toList.map fun text => .line (stringLine key text)

def optionalSql (key : String) (value : Option String) : List Item :=
  value.toList.map fun sql => .line (sqlLine key sql)

def optionalProperty (key : String) (value : Option String) : List Item :=
  value.toList.map fun text => .line (propertyLine key text)

def flagProperty (key : String) (value : Bool) : List Item :=
  if value then [.line (propertyLine key "yes")] else []

def DimensionField.item (field : DimensionField) : Item :=
  .block "dimension" field.name
    (flagProperty "primary_key" field.isPrimaryKey ++ flagProperty "hidden" field.isHidden ++
      optionalProperty "type" field.type ++ optionalString "label" field.label ++
      optionalString "description" field.description ++ [.line (sqlLine "sql" field.sql)])

def DimensionGroup.item (group : DimensionGroup) : Item :=
  .block "dimension_group" group.name
    ([.line (propertyLine "type" "time"), .line (listLine "timeframes" group.timeframes)] ++
      optionalString "label" group.label ++ optionalString "description" group.description ++
      [.line (sqlLine "sql" group.sql)])

def MeasureField.item (field : MeasureField) : Item :=
  .block "measure" field.name
    ([.line (propertyLine "type" field.type)] ++ optionalString "label" field.label ++
      optionalString "description" field.description ++ optionalSql "sql" field.sql)

def MetricField.item (field : MetricField) : Item :=
  .block "measure" field.name
    ([.line (propertyLine "type" field.type), .line (stringLine "label" field.label)] ++
      optionalString "description" field.description ++ [.line (sqlLine "sql" field.sql)] ++
      (if field.requiredFields.isEmpty then []
        else [.line (listLine "required_fields" field.requiredFields)]) ++
      optionalProperty "value_format_name" field.valueFormat)

/-- A blank line in front of every item. -/
def spaced (items : List Item) : List Item := items.flatMap fun item => [.blank, item]

def View.item (view : View) : Item :=
  .block "view" view.name
    (optionalSql "sql_table_name" view.tableName ++ optionalString "description" view.description ++
      spaced (view.dimensions.map DimensionField.item) ++
      spaced (view.groups.map DimensionGroup.item) ++
      spaced (view.measures.map MeasureField.item) ++
      spaced (view.metrics.map MetricField.item) ++
      spaced [.block "set" dimensionsOnly [.line (listLine "fields" view.dimensionFields.items)]])

def Join.item (join : Join) : Item :=
  .block "join" join.view
    [.line (propertyLine "type" join.type),
      .line (propertyLine "relationship" join.relationship.tag),
      .line (sqlLine "sql_on" join.condition), .line (listLine "fields" join.fields)]

/-- The base view is named when the explore has another name. -/
def Explore.item (explore : Explore) : Item :=
  .block "explore" explore.name
    ((if explore.name = explore.baseView then []
        else [.line (propertyLine "view_name" explore.baseView)]) ++
      optionalString "label" explore.label ++ spaced (explore.joins.map Join.item))

def emit (options : EmitOptions) (items : List Item) : String :=
  ((Writer.ofIndent options.indent).items (header options ++ items)).text

def emitView (options : EmitOptions) (view : View) : String := emit options [view.item]

def emitExplores (options : EmitOptions) (explores : List Explore) : String :=
  emit options
    (.line (stringLine "include" "*.view.lkml") :: spaced (explores.map Explore.item))

/-- Leave out every pair whose key a later pair has too. -/
def lastOfEach : List (String × String) → List (String × String)
  | [] => []
  | (name, text) :: rest =>
      if rest.any fun (later, _) => later == name then lastOfEach rest
      else (name, text) :: lastOfEach rest

theorem mem_of_mem_lastOfEach {entries : List (String × String)} {entry : String × String}
    (kept : entry ∈ lastOfEach entries) : entry ∈ entries := by
  induction entries with
  | nil => cases kept
  | cons head rest ih =>
      unfold lastOfEach at kept
      split at kept
      · exact List.mem_cons_of_mem _ (ih kept)
      · rcases List.mem_cons.mp kept with same | later
        · exact same ▸ List.mem_cons_self ..
        · exact List.mem_cons_of_mem _ (ih later)

theorem lastOfEach_names_nodup (entries : List (String × String)) :
    ((lastOfEach entries).map Prod.fst).Nodup := by
  induction entries with
  | nil => exact List.nodup_nil
  | cons head rest ih =>
      unfold lastOfEach
      split
      · exact ih
      · rename_i fresh
        rw [List.map_cons, List.nodup_cons]
        refine ⟨fun again => fresh ?_, ih⟩
        obtain ⟨entry, kept, same⟩ := List.mem_map.mp again
        exact List.any_eq_true.mpr ⟨entry, mem_of_mem_lastOfEach kept, beq_iff_eq.mpr same⟩

/-- The text of every file by name, in ascending order. There is no file of explores
when there are none. -/
def files (options : EmitOptions) (views : List View) (explores : List Explore) :
    List (String × String) :=
  let viewFiles := views.map fun view => (view.name ++ ".view.lkml", emitView options view)
  let exploreFiles :=
    if explores.isEmpty then [] else [("explores.lkml", emitExplores options explores)]
  Order.sortedOn Prod.fst (lastOfEach (viewFiles ++ exploreFiles))

end SemanticLayer.LookML
