import SemanticLayer.Proofs.Attempt
import SemanticLayer.Source.Conversion
namespace SemanticLayer.Source

/-! What a record declares, and that conversion makes this of it. -/

variable {owner : Owner}

theorem require_eq_ok_iff {field : String} {value : Option α} {found : α} :
    require owner field value = .ok found ↔ value = some found := by
  cases value <;> simp [require]

namespace EntityRecord

variable {record : EntityRecord}

/-- Tags are read without regard to ASCII case. -/
def tag? (record : EntityRecord) : Option String := record.type.map lowerAscii

def formsJoins (record : EntityRecord) : Bool :=
  record.tag? == some "primary" || record.tag? == some "foreign"

structure Declares (record : EntityRecord) (entity : Entity) : Prop where
  name : entity.name = record.name
  role : record.tag? = some entity.role.tag
  expression : entity.expression = record.expression.getD record.name

/-- The record of an entity that only identifies rows. -/
def IsSkipped (record : EntityRecord) : Prop :=
  record.tag? = some "unique" ∨ record.tag? = some "natural"

theorem convert_cases {outcome : Option Entity} (converted : record.convert owner = .ok outcome) :
    if record.formsJoins then ∃ entity, outcome = some entity ∧ record.Declares entity
    else outcome = none ∧ record.IsSkipped := by
  unfold convert at converted
  obtain ⟨type, required, rest⟩ := Attempt.bind_eq_ok_iff.mp converted
  have typed : record.tag? = some (lowerAscii type) := by
    rw [tag?, require_eq_ok_iff.mp required]
    rfl
  generalize lowerAscii type = tag at typed rest
  simp only [beq_iff_eq] at rest
  split at rest
  · next primary =>
    cases rest
    rw [if_pos (by simp [formsJoins, typed, primary])]
    exact ⟨_, rfl, rfl, by rw [typed, primary]; rfl, rfl⟩
  · next notPrimary =>
    split at rest
    · next foreign =>
      cases rest
      rw [if_pos (by simp [formsJoins, typed, foreign])]
      exact ⟨_, rfl, rfl, by rw [typed, foreign]; rfl, rfl⟩
    · next notForeign =>
      split at rest
      · next skipped =>
        cases rest
        rw [if_neg (by simp [formsJoins, typed, notPrimary, notForeign])]
        exact ⟨rfl, by simpa [IsSkipped, typed] using skipped⟩
      · cases rest

end EntityRecord

namespace DimensionRecord

variable {record : DimensionRecord}

def tag? (record : DimensionRecord) : Option String := record.type.map lowerAscii

/-- Without a type a dimension is categorical, and without a granularity it is read by day. -/
def HasKind (record : DimensionRecord) : DimensionKind → Prop
  | .categorical => record.tag? = none ∨ record.tag? = some "categorical"
  | .time granularity => record.tag? = some "time" ∧
      match record.granularity with
      | none => granularity = .day
      | some tag => Granularity.ofTag? tag = some granularity

structure Declares (record : DimensionRecord) (dimension : Dimension) : Prop where
  name : dimension.name = record.name
  kind : record.HasKind dimension.kind
  expression : dimension.expression = record.expression
  label : dimension.label = record.label
  description : dimension.description = record.description

theorem hasKind_of_convertKind {kind : DimensionKind} (converted : record.convertKind owner = .ok kind) :
    record.HasKind kind := by
  unfold convertKind at converted
  change (match record.tag? with | none => _ | some type => _) = _ at converted
  cases typed : record.tag? with
  | none =>
      rw [typed] at converted
      cases converted
      exact .inl typed
  | some type =>
      simp only [typed, beq_iff_eq] at converted
      split at converted
      · next categorical =>
        cases converted
        exact .inr (categorical ▸ typed)
      · split at converted
        · next time =>
          subst time
          unfold convertGranularity at converted
          cases granular : record.granularity with
          | none =>
              rw [granular] at converted
              cases converted
              exact ⟨typed, by rw [granular]⟩
          | some tag =>
              cases named : Granularity.ofTag? tag with
              | none => simp [granular, named, Except.map] at converted
              | some granularity =>
                  simp only [granular, named, Except.map, Except.ok.injEq] at converted
                  subst converted
                  exact ⟨typed, by rw [granular]; exact named⟩
        · cases converted

theorem declares_of_convert {dimension : Dimension} (converted : record.convert owner = .ok dimension) :
    record.Declares dimension := by
  obtain ⟨kind, typed, rest⟩ := Attempt.bind_eq_ok_iff.mp converted
  cases rest
  exact ⟨rfl, hasKind_of_convertKind typed, rfl, rfl, rfl⟩

end DimensionRecord

namespace MeasureRecord

variable {record : MeasureRecord}

structure Declares (record : MeasureRecord) (measure : Measure) : Prop where
  name : measure.name = record.name
  aggregation : record.aggregation.bind Aggregation.ofTag? = some measure.aggregation
  expression : measure.expression = record.expression
  label : measure.label = record.label
  description : measure.description = record.description

theorem declares_of_convert {measure : Measure} (converted : record.convert owner = .ok measure) :
    record.Declares measure := by
  obtain ⟨tag, required, rest⟩ := Attempt.bind_eq_ok_iff.mp converted
  cases named : Aggregation.ofTag? tag with
  | none => simp [named] at rest
  | some aggregation =>
      simp only [named] at rest
      cases rest
      exact ⟨rfl, by rw [require_eq_ok_iff.mp required]; exact named, rfl, rfl, rfl⟩

end MeasureRecord

structure ConversionRecord.Declares (record : ConversionRecord) (conversion : Conversion) : Prop where
  entity : record.entity = some conversion.entity
  baseMeasure : record.baseMeasure = some conversion.baseMeasure
  conversionMeasure : record.conversionMeasure = some conversion.conversionMeasure
  /-- It is a rate unless said otherwise. -/
  calculation : record.calculation.getD "conversion_rate" = conversion.calculation.tag
  window : conversion.window = record.window

theorem ConversionRecord.declares_of_convert {record : ConversionRecord} {conversion : Conversion}
    (converted : record.convert owner = .ok conversion) : record.Declares conversion := by
  unfold convert at converted
  split at converted
  all_goals
    next written =>
      obtain ⟨calculation, calculated, rest⟩ := Attempt.bind_eq_ok_iff.mp converted
      obtain ⟨entity, hasEntity, rest⟩ := Attempt.bind_eq_ok_iff.mp rest
      obtain ⟨baseMeasure, hasBase, rest⟩ := Attempt.bind_eq_ok_iff.mp rest
      obtain ⟨conversionMeasure, hasConversion, rest⟩ := Attempt.bind_eq_ok_iff.mp rest
      cases rest
      refine ⟨require_eq_ok_iff.mp hasEntity, require_eq_ok_iff.mp hasBase,
        require_eq_ok_iff.mp hasConversion, ?_, rfl⟩
      -- An unknown calculation ends the conversion.
      cases calculated <;> rw [written] <;> rfl

/-- The parameters of a metric of this kind. -/
def MetricParameters.Give (parameters : MetricParameters) : MetricKind → Prop
  | .simple measure => parameters.measure = some measure
  | .ratio numerator denominator =>
      parameters.numerator = some numerator ∧ parameters.denominator = some denominator
  | .derived expression inputs => parameters.expression = some expression ∧ parameters.inputs = inputs
  | .conversion conversion => ∃ record, parameters.conversion = some record ∧ record.Declares conversion

theorem MetricParameters.give_of_convert {parameters : MetricParameters} {type : MetricType}
    {kind : MetricKind} (converted : parameters.convert owner type = .ok kind) :
    kind.type = type ∧ parameters.Give kind := by
  cases type with
  | simple =>
      obtain ⟨measure, required, rest⟩ := Attempt.bind_eq_ok_iff.mp converted
      cases rest
      exact ⟨rfl, require_eq_ok_iff.mp required⟩
  | ratio =>
      obtain ⟨numerator, hasNumerator, rest⟩ := Attempt.bind_eq_ok_iff.mp converted
      obtain ⟨denominator, hasDenominator, rest⟩ := Attempt.bind_eq_ok_iff.mp rest
      cases rest
      exact ⟨rfl, require_eq_ok_iff.mp hasNumerator, require_eq_ok_iff.mp hasDenominator⟩
  | derived =>
      obtain ⟨expression, required, rest⟩ := Attempt.bind_eq_ok_iff.mp converted
      cases rest
      exact ⟨rfl, require_eq_ok_iff.mp required, rfl⟩
  | conversion =>
      obtain ⟨record, required, rest⟩ := Attempt.bind_eq_ok_iff.mp converted
      obtain ⟨conversion, made, rest⟩ := Attempt.bind_eq_ok_iff.mp rest
      cases rest
      exact ⟨rfl, record, require_eq_ok_iff.mp required, ConversionRecord.declares_of_convert made⟩

namespace MetricRecord

variable {record : MetricRecord}

def type? (record : MetricRecord) : Option MetricType := record.type.bind MetricType.ofTag?

def isSupported (record : MetricRecord) : Bool := record.type?.isSome

structure Declares (record : MetricRecord) (metric : Metric) : Prop where
  name : metric.name = record.name
  type : record.type? = some metric.type
  kind : record.parameters.Give metric.kind
  /-- What the metric says itself comes before what is configured for it. -/
  primaryEntity : metric.primaryEntity =
    firstPresent [record.annotations.primaryEntity, record.configured.primaryEntity]
  label : metric.display.label = record.label
  description : metric.display.description = record.description
  valueFormat : metric.display.valueFormat =
    firstPresent [record.annotations.valueFormat, record.configured.valueFormat]

/-- The tag of the record names no type of metrics, and the error says so. -/
def Rejects (record : MetricRecord) (error : MetricError) : Prop :=
  ∃ tag, record.type = some tag ∧ MetricType.ofTag? tag = none ∧
    error = .unsupportedMetricType record.name tag

theorem convert_cases {outcome : MetricOutcome} (converted : record.convert = .ok outcome) :
    if record.isSupported then ∃ metric, outcome = .accepted metric ∧ record.Declares metric
    else ∃ error, outcome = .rejected error ∧ record.Rejects error := by
  obtain ⟨tag, required, rest⟩ := Attempt.bind_eq_ok_iff.mp converted
  have tagged := require_eq_ok_iff.mp required
  have typed : record.type? = MetricType.ofTag? tag := by rw [type?, tagged]; rfl
  cases named : MetricType.ofTag? tag with
  | none =>
      simp only [named] at rest
      cases rest
      rw [if_neg (by simp [isSupported, typed, named])]
      exact ⟨_, rfl, tag, tagged, named, rfl⟩
  | some type =>
      simp only [named] at rest
      obtain ⟨kind, given, rest⟩ := Attempt.bind_eq_ok_iff.mp rest
      cases rest
      obtain ⟨sameType, gives⟩ := MetricParameters.give_of_convert given
      rw [if_pos (by simp [isSupported, typed, named])]
      exact ⟨_, rfl, rfl, by rw [typed, named, ← sameType]; rfl, gives, rfl, rfl, rfl, rfl⟩

end MetricRecord

end SemanticLayer.Source
