import SemanticLayer.Proofs.Attempt
import SemanticLayer.Proofs.MetricCatalog.Definition
namespace SemanticLayer

/-! The walk over the metrics that a derived one refers to.

`foldFrom_eq_ok_iff` says what one step of the walk does, `foldFrom_induction` is the
induction that goes with it, and `exists_fold_eq_ok_iff` tells exactly when a walk ends with
a value: no trail of references from the root lacks a definition or comes back to itself, and
every metric on the way is accepted by itself. `Leads` is reachability along some of the
references only. -/

/-- The measures that a metric names itself. -/
def MetricKind.payload : MetricKind → List String
  | .simple measure => [measure]
  | .ratio numerator denominator => [numerator, denominator]
  | .conversion parameters => [parameters.baseMeasure, parameters.conversionMeasure]
  | .derived _ _ => []

/-- What `algebra` makes of a metric once its inputs have their values. -/
def MetricAlgebra.combine (algebra : MetricAlgebra α) (kind : MetricKind)
    (operands : List (Operand α)) : Except MetricError α :=
  match kind with
  | .simple measure => algebra.simple measure
  | .ratio numerator denominator => algebra.ratio numerator denominator
  | .conversion parameters => algebra.conversion parameters
  | .derived expression _ => .ok (algebra.derived expression operands)

theorem MetricAlgebra.exists_combine_iff {algebra : MetricAlgebra α} {kind : MetricKind}
    (operands : List (Operand α)) :
    (∃ value, algebra.combine kind operands = .ok value) ↔
      ∃ value, algebra.combine kind [] = .ok value := by
  cases kind with
  | derived expression inputs => simp [combine]
  | simple => exact Iff.rfl
  | ratio => exact Iff.rfl
  | conversion => exact Iff.rfl

def Metric.Lists (metric : Metric) (input : MetricInput) : Prop := input ∈ metric.inputs

namespace MetricCatalog

/-- The references of derived metrics lead from `root` to `metric`; `path` lists the names on
the way, both ends included. -/
inductive Trail (catalog : MetricCatalog) (root : Metric) : (path : List String) → Metric → Prop
  | start : Trail catalog root [root.name] root
  | extend {path metric input nested} : Trail catalog root path metric → input ∈ metric.inputs →
      catalog.metric? input.name = some nested → Trail catalog root (path ++ [input.name]) nested

/-- A trail stays among the metrics of the catalog once it has left the root. -/
theorem mem_cons_of_trail {catalog : MetricCatalog} {root metric : Metric} {path : List String}
    (trail : catalog.Trail root path metric) : metric ∈ root :: catalog.metrics := by
  cases trail with
  | start => exact List.mem_cons_self ..
  | extend _ _ found => exact List.mem_cons_of_mem _ (mem_of_metric? found)

theorem mem_of_trail {metrics : List Metric} {root metric : Metric} {path : List String}
    (declared : root ∈ metrics) (trail : (ofMetrics metrics).Trail root path metric) :
    metric ∈ metrics := by
  rcases List.mem_cons.mp (mem_cons_of_trail trail) with rfl | inCatalog
  · exact declared
  · exact declared_of_mem inCatalog

/-- References that are followed lead from the metric to one with the property. -/
inductive Leads (catalog : MetricCatalog) (follows : Metric → MetricInput → Prop)
    (goal : Metric → Prop) : Metric → Prop
  | here {metric} : goal metric → Leads catalog follows goal metric
  | through {metric input nested} : follows metric input → catalog.metric? input.name = some nested →
      Leads catalog follows goal nested → Leads catalog follows goal metric

namespace Leads

variable {catalog : MetricCatalog} {follows other : Metric → MetricInput → Prop}
  {goal : Metric → Prop} {root metric : Metric} {path : List String}

theorem mono (weaker : ∀ metric input, follows metric input → other metric input)
    (leads : catalog.Leads follows goal metric) : catalog.Leads other goal metric := by
  induction leads with
  | here reached => exact .here reached
  | through followed found _ ih => exact .through (weaker _ _ followed) found ih

theorem exists_trail (leads : catalog.Leads Metric.Lists goal metric)
    (trail : catalog.Trail root path metric) :
    ∃ path inner, catalog.Trail root path inner ∧ goal inner := by
  induction leads generalizing path with
  | here reached => exact ⟨_, _, trail, reached⟩
  | through listed found _ ih => exact ih (trail.extend listed found)

/-- Where all references on trails are followed, nothing is out of reach. -/
theorem of_followed
    (followed : ∀ path inner, catalog.Trail root path inner → ∀ input ∈ inner.inputs,
      follows inner input)
    (leads : catalog.Leads Metric.Lists goal metric) (trail : catalog.Trail root path metric) :
    catalog.Leads follows goal metric := by
  induction leads generalizing path with
  | here reached => exact .here reached
  | through listed found _ ih =>
      exact .through (followed _ _ trail _ listed) found (ih (trail.extend listed found))

end Leads

variable {catalog : MetricCatalog} {algebra : MetricAlgebra α} {root : String}
  {path : List String} {metric nested : Metric} {input : MetricInput} {value : α}

/-- The value of one input, when the walk came to the derived metric along `path`. -/
def operand (catalog : MetricCatalog) (algebra : MetricAlgebra α) (root : String)
    (path : List String) (input : MetricInput) : Except MetricError (Operand α) :=
  if input.name ∈ path then .error (.circularMetricReference root (cycleAt path input.name))
  else
    match catalog.metric? input.name with
    | none => .error (.unknownMetricReference root input.name)
    | some nested => do
        let value ← catalog.foldFrom algebra root (path ++ [input.name]) nested
        return { reference := input.reference, type := nested.type, value }

theorem foldFrom_eq (catalog : MetricCatalog) (algebra : MetricAlgebra α) (root : String)
    (path : List String) (metric : Metric) :
    catalog.foldFrom algebra root path metric =
      metric.inputs.mapM (catalog.operand algebra root path) >>= algebra.combine metric.kind := by
  rw [foldFrom]
  cases kind : metric.kind with
  | simple measure => simp [Metric.inputs, kind, MetricAlgebra.combine]
  | ratio numerator denominator => simp [Metric.inputs, kind, MetricAlgebra.combine]
  | conversion parameters => simp [Metric.inputs, kind, MetricAlgebra.combine]
  | derived expression inputs =>
      simp only [Metric.inputs, kind]
      congr 1
      congr 1
      funext input
      simp only [operand]
      split
      · rfl
      · split <;> rename_i found <;> rw [found]
        rfl

theorem foldFrom_of_inputs (none : metric.inputs = []) :
    catalog.foldFrom algebra root path metric = algebra.combine metric.kind [] := by
  rw [foldFrom_eq, none, List.mapM_nil]
  rfl

structure Enters (catalog : MetricCatalog) (path : List String) (input : MetricInput)
    (nested : Metric) : Prop where
  fresh : input.name ∉ path
  found : catalog.metric? input.name = some nested

theorem Enters.eq_of_found {other : Metric} (enters : catalog.Enters path input other)
    (found : catalog.metric? input.name = some nested) : other = nested :=
  Option.some.inj (enters.found.symm.trans found)

theorem operand_eq_ok_iff {result : Operand α} :
    catalog.operand algebra root path input = .ok result ↔
      ∃ nested, catalog.Enters path input nested ∧
        result.reference = input.reference ∧ result.type = nested.type ∧
        catalog.foldFrom algebra root (path ++ [input.name]) nested = .ok result.value := by
  unfold operand
  by_cases known : input.name ∈ path
  · simp only [known, if_true, reduceCtorEq, false_iff, not_exists, not_and]
    intro nested enters
    exact absurd known enters.fresh
  · rw [if_neg known]
    cases found : catalog.metric? input.name with
    | none =>
        simp only [reduceCtorEq, false_iff, not_exists, not_and]
        intro nested enters
        rw [enters.found] at found
        cases found
    | some nested =>
        simp only [Attempt.bind_eq_ok_iff, pure, Except.pure, Except.ok.injEq]
        constructor
        · intro walked
          obtain ⟨value, inner, rfl⟩ := walked
          exact ⟨nested, ⟨known, found⟩, rfl, rfl, inner⟩
        · intro walked
          obtain ⟨other, enters, reference, type, inner⟩ := walked
          cases enters.eq_of_found found
          exact ⟨result.value, inner, by rw [← reference, ← type]⟩

theorem foldFrom_eq_ok_iff :
    catalog.foldFrom algebra root path metric = .ok value ↔
      ∃ operands,
        List.Forall₂ (fun input operand => catalog.operand algebra root path input = .ok operand)
          metric.inputs operands ∧
        algebra.combine metric.kind operands = .ok value := by
  rw [foldFrom_eq, Attempt.bind_eq_ok_iff]
  simp only [Attempt.mapM_eq_ok_iff]

/-- Induction along a walk that ends with a value: what holds of the operands carries over to
what is combined from them. The number of names that may still be entered falls. -/
theorem foldFrom_induction {motive : List String → Metric → α → Prop}
    (step : ∀ path metric operands value,
      List.Forall₂ (fun input operand => ∃ nested, catalog.Enters path input nested ∧
        operand.reference = input.reference ∧ operand.type = nested.type ∧
        motive (path ++ [input.name]) nested operand.value) metric.inputs operands →
      algebra.combine metric.kind operands = .ok value → motive path metric value)
    (walked : catalog.foldFrom algebra root path metric = .ok value) :
    motive path metric value := by
  generalize size : catalog.unvisited path = bound
  induction bound using Nat.strongRecOn generalizing path metric value with
  | ind bound ih =>
      obtain ⟨operands, entered, combined⟩ := foldFrom_eq_ok_iff.mp walked
      refine step path metric operands value (entered.imp ?_) combined
      intro input operand evaluated
      obtain ⟨nested, enters, reference, type, inner⟩ := operand_eq_ok_iff.mp evaluated
      have smaller := unvisited_lt enters.fresh enters.found
      exact ⟨nested, enters, reference, type, ih _ (size ▸ smaller) inner rfl⟩

/-- A walk that ends with a value has entered names outside its path only, each with its definition.
So it ends alike with fewer names behind it, in a catalog that keeps these definitions, and with an
algebra that accepts what has been combined. -/
theorem foldFrom_eq_ok_of_subset {other : MetricCatalog} {otherAlgebra : MetricAlgebra α}
    {otherRoot : String} {fewer : List String}
    (keeps : ∀ name nested, name ∉ path → catalog.metric? name = some nested →
      other.metric? name = some nested)
    (accepts : ∀ kind operands value, algebra.combine kind operands = .ok value →
      otherAlgebra.combine kind operands = .ok value)
    (subset : fewer ⊆ path) (walked : catalog.foldFrom algebra root path metric = .ok value) :
    other.foldFrom otherAlgebra otherRoot fewer metric = .ok value := by
  refine foldFrom_induction
    (motive := fun path metric value => ∀ fewer, fewer ⊆ path →
      (∀ name nested, name ∉ path → catalog.metric? name = some nested →
        other.metric? name = some nested) →
      other.foldFrom otherAlgebra otherRoot fewer metric = .ok value)
    ?_ walked fewer subset keeps
  intro path metric operands value entered combined fewer subset keeps
  refine foldFrom_eq_ok_iff.mpr ⟨operands, entered.imp fun input operand evaluated => ?_,
    accepts _ _ _ combined⟩
  obtain ⟨nested, enters, reference, type, inner⟩ := evaluated
  have kept := keeps _ _ enters.fresh enters.found
  refine operand_eq_ok_iff.mpr
    ⟨nested, ⟨fun known => enters.fresh (subset known), kept⟩, reference, type, inner _ ?_ ?_⟩
  · exact List.append_subset.mpr ⟨List.subset_append_of_subset_left _ subset, List.subset_append_right ..⟩
  · intro name nested fresh found
    exact keeps name nested (fun known => fresh (List.mem_append_left _ known)) found

/-- A walk depends on the answers of the catalog for the names that references lead to. -/
theorem foldFrom_congr_of_closed {other : MetricCatalog} (names : String → Prop)
    (agree : ∀ name, names name → catalog.metric? name = other.metric? name)
    (closed : ∀ name nested, names name → catalog.metric? name = some nested →
      ∀ input ∈ nested.inputs, names input.name)
    (algebra : MetricAlgebra α) (root : String) (path : List String) {metric : Metric}
    (inputs : ∀ input ∈ metric.inputs, names input.name) :
    catalog.foldFrom algebra root path metric = other.foldFrom algebra root path metric := by
  generalize size : catalog.unvisited path = bound
  induction bound using Nat.strongRecOn generalizing path metric with
  | ind bound ih =>
      have operands : metric.inputs.mapM (catalog.operand algebra root path) =
          metric.inputs.mapM (other.operand algebra root path) := by
        refine Attempt.mapM_congr fun input member => ?_
        have named := inputs input member
        unfold operand
        by_cases known : input.name ∈ path
        · rw [if_pos known, if_pos known]
        · rw [if_neg known, if_neg known, ← agree _ named]
          cases found : catalog.metric? input.name with
          | none => rfl
          | some nested =>
              have inner := ih _ (size ▸ unvisited_lt known found) (path ++ [input.name])
                (closed _ nested named found) rfl
              simp only [inner]
      rw [foldFrom_eq, foldFrom_eq, operands]

/-- A walk depends on the answers of the catalog only. -/
theorem foldFrom_congr {other : MetricCatalog}
    (agree : ∀ name, catalog.metric? name = other.metric? name) (algebra : MetricAlgebra α)
    (root : String) (path : List String) (metric : Metric) :
    catalog.foldFrom algebra root path metric = other.foldFrom algebra root path metric :=
  foldFrom_congr_of_closed (fun _ => True) (fun name _ => agree name)
    (fun _ _ _ _ _ _ => trivial) algebra root path fun _ _ => trivial

/-- A walk that ends with a value does so at every metric it passes, and what it makes of such
a metric is contained in the whole. -/
theorem foldFrom_of_trail {first : Metric} (contained : α → α → Prop)
    (refl : ∀ value, contained value value)
    (trans : ∀ {inner middle outer}, contained inner middle → contained middle outer →
      contained inner outer)
    (contains : ∀ (metric : Metric) operands value, operands.length = metric.inputs.length →
      algebra.combine metric.kind operands = .ok value →
      ∀ operand ∈ operands, contained operand.value value)
    (walked : catalog.fold algebra first = .ok value) (trail : catalog.Trail first path metric) :
    ∃ inner, catalog.foldFrom algebra first.name path metric = .ok inner ∧ contained inner value := by
  induction trail with
  | start => exact ⟨value, walked, refl value⟩
  | extend _ member found ih =>
      obtain ⟨outer, passed, whole⟩ := ih
      obtain ⟨operands, entered, combined⟩ := foldFrom_eq_ok_iff.mp passed
      obtain ⟨operand, among, evaluated⟩ := Attempt.exists_of_forall₂_left entered member
      obtain ⟨nested, enters, _, _, inner⟩ := operand_eq_ok_iff.mp evaluated
      cases enters.eq_of_found found
      have part := contains _ _ _ entered.length_eq.symm combined operand among
      exact ⟨operand.value, inner, trans part whole⟩

theorem exists_foldFrom_of_accepted {first : Metric}
    (accepted : ∀ path metric, catalog.Trail first path metric →
      (∀ input ∈ metric.inputs, input.name ∉ path ∧ ∃ nested, catalog.metric? input.name = some nested) ∧
      ∃ value, algebra.combine metric.kind [] = .ok value)
    (trail : catalog.Trail first path metric) :
    ∃ value, catalog.foldFrom algebra root path metric = .ok value := by
  generalize size : catalog.unvisited path = bound
  induction bound using Nat.strongRecOn generalizing path metric with
  | ind bound ih =>
      obtain ⟨inputs, own⟩ := accepted path metric trail
      have evaluated : ∃ operands,
          metric.inputs.mapM (catalog.operand algebra root path) = .ok operands := by
        rw [Attempt.exists_mapM_eq_ok_iff]
        intro input member
        obtain ⟨fresh, nested, found⟩ := inputs input member
        have smaller := unvisited_lt fresh found
        obtain ⟨value, inner⟩ := ih _ (size ▸ smaller) (trail.extend member found) rfl
        exact ⟨⟨input.reference, nested.type, value⟩,
          operand_eq_ok_iff.mpr ⟨nested, ⟨fresh, found⟩, rfl, rfl, inner⟩⟩
      obtain ⟨operands, entered⟩ := evaluated
      obtain ⟨value, combined⟩ := (MetricAlgebra.exists_combine_iff operands).mpr own
      exact ⟨value, foldFrom_eq_ok_iff.mpr ⟨operands, Attempt.mapM_eq_ok_iff.mp entered, combined⟩⟩

/-- A walk ends with a value exactly when every reference on a trail from the root is defined
and new to the trail, and every metric on a trail is accepted by itself. -/
theorem exists_fold_eq_ok_iff {first : Metric} :
    (∃ value, catalog.fold algebra first = .ok value) ↔
      ∀ path metric, catalog.Trail first path metric →
        (∀ input ∈ metric.inputs,
          input.name ∉ path ∧ ∃ nested, catalog.metric? input.name = some nested) ∧
        ∃ value, algebra.combine metric.kind [] = .ok value := by
  constructor
  · intro walked path metric trail
    obtain ⟨whole, walked⟩ := walked
    obtain ⟨value, inner, _⟩ := foldFrom_of_trail (fun _ _ => True)
      (fun _ => trivial) (fun _ _ => trivial) (fun _ _ _ _ _ _ _ => trivial) walked trail
    obtain ⟨operands, entered, combined⟩ := foldFrom_eq_ok_iff.mp inner
    refine ⟨fun input member => ?_, (MetricAlgebra.exists_combine_iff operands).mp ⟨value, combined⟩⟩
    obtain ⟨operand, _, evaluated⟩ := Attempt.exists_of_forall₂_left entered member
    obtain ⟨nested, enters, _⟩ := operand_eq_ok_iff.mp evaluated
    exact ⟨enters.fresh, nested, enters.found⟩
  · intro accepted
    exact exists_foldFrom_of_accepted accepted .start

/-- Every metric that derived inputs lead to is defined. -/
def Defined (catalog : MetricCatalog) (root : Metric) : Prop :=
  ∀ path metric, catalog.Trail root path metric →
    ∀ input ∈ metric.inputs, ∃ nested, catalog.metric? input.name = some nested

/-- No chain of references from `root` repeats a name. -/
def Acyclic (catalog : MetricCatalog) (root : Metric) : Prop :=
  ∀ path metric, catalog.Trail root path metric → path.Nodup

theorem defined_and_acyclic_iff {first : Metric} :
    catalog.Defined first ∧ catalog.Acyclic first ↔
      ∀ path metric, catalog.Trail first path metric → ∀ input ∈ metric.inputs,
        input.name ∉ path ∧ ∃ nested, catalog.metric? input.name = some nested := by
  constructor
  · intro sound path metric trail input member
    obtain ⟨defined, acyclic⟩ := sound
    obtain ⟨nested, found⟩ := defined path metric trail input member
    have distinct := acyclic _ nested (trail.extend member found)
    refine ⟨fun known => ?_, nested, found⟩
    exact (List.nodup_append.mp distinct).2.2 input.name known input.name (by simp) rfl
  · intro sound
    refine ⟨fun path metric trail input member => (sound path metric trail input member).2, ?_⟩
    intro path metric trail
    induction trail with
    | start => simp
    | extend before member _ ih =>
        have fresh := (sound _ _ before _ member).1
        refine List.nodup_append.mpr ⟨ih, by simp, ?_⟩
        intro known old last new same
        rw [List.mem_singleton.mp new] at same
        exact fresh (same ▸ old)

end MetricCatalog

end SemanticLayer
