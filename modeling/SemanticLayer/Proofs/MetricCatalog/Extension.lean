import SemanticLayer.Proofs.Generation.DistinctMetrics
import SemanticLayer.Proofs.MetricCatalog.Definition
import SemanticLayer.Proofs.MetricCatalog.Walk
import SemanticLayer.Proofs.Order.Insertion
namespace SemanticLayer.MetricCatalog

/-! Catalogs with more metrics.

A walk that ends with a value enters defined names only, so it ends with the same value in every
catalog that keeps these definitions. A walk that cannot come to a new name ends in the same way,
with its error too. -/

open SemanticLayer.Order

variable {catalog other : MetricCatalog} {algebra : MetricAlgebra α} {metric : Metric}
  {metrics more : List Metric} {value : α} {name : String}

/-- All definitions of `catalog` are definitions of `other`. -/
def ExtendedBy (catalog other : MetricCatalog) : Prop :=
  ∀ name metric, catalog.metric? name = some metric → other.metric? name = some metric

theorem foldFrom_eq_ok_of_extendedBy (extended : catalog.ExtendedBy other) {root : String}
    {path : List String} (walked : catalog.foldFrom algebra root path metric = .ok value) :
    other.foldFrom algebra root path metric = .ok value :=
  foldFrom_eq_ok_of_subset (fun name nested _ found => extended name nested found)
    (fun _ _ _ combined => combined) (List.Subset.refl path) walked

theorem fold_eq_ok_of_extendedBy (extended : catalog.ExtendedBy other)
    (walked : catalog.fold algebra metric = .ok value) : other.fold algebra metric = .ok value :=
  foldFrom_eq_ok_of_extendedBy extended walked

/-- `more` is `metrics` with metrics of new names put in anywhere. -/
def Enlarges (metrics more : List Metric) : Prop :=
  more.filter (fun metric => metric.name ∈ metrics.map Metric.name) = metrics

theorem Enlarges.extendedBy (enlarges : Enlarges metrics more) :
    (ofMetrics metrics).ExtendedBy (ofMetrics more) := by
  intro name metric found
  have declared : name ∈ metrics.map Metric.name := by
    rw [← name_of_metric? found]
    exact List.mem_map_of_mem (declared_of_mem (mem_of_metric? found))
  rw [metric?_ofMetrics] at found ⊢
  calc
    more.find? (fun candidate => candidate.name == name)
      = (more.filter fun candidate => candidate.name ∈ metrics.map Metric.name).find?
          (fun candidate => candidate.name == name) := by
        -- The filter keeps every metric of this name.
        rw [List.find?_filter]
        refine congrArg (List.find? · more) (funext fun candidate => ?_)
        by_cases same : candidate.name = name <;> simp [same, declared]
    _ = some metric := by rw [enlarges, found]

theorem ExtendedBy.mem (extended : (ofMetrics metrics).ExtendedBy (ofMetrics more))
    (member : metric ∈ (ofMetrics metrics).metrics) : metric ∈ (ofMetrics more).metrics :=
  (metric?_eq_some_iff.mp (extended _ _ (metric?_eq_some_iff.mpr ⟨member, rfl⟩))).1

section Inserted

variable (inserted : Inserts metric metrics more)
include inserted

theorem metric?_of_inserts (different : name ≠ metric.name) :
    (ofMetrics more).metric? name = (ofMetrics metrics).metric? name := by
  obtain ⟨before, after, rfl, rfl⟩ := inserted
  have passed : (metric.name == name) = false := by simpa using different.symm
  rw [metric?_ofMetrics, metric?_ofMetrics, List.find?_append, List.find?_append, List.find?_cons,
    passed]

theorem metric?_inserted (fresh : metric.name ∉ metrics.map Metric.name) :
    (ofMetrics more).metric? metric.name = some metric := by
  obtain ⟨before, after, rfl, rfl⟩ := inserted
  have earlier : before.find? (fun other => other.name == metric.name) = none := by
    refine List.find?_eq_none.mpr fun other member same => fresh ?_
    rw [← beq_iff_eq.mp same]
    exact List.mem_map_of_mem (List.mem_append_left _ member)
  rw [metric?_ofMetrics, List.find?_append, earlier, List.find?_cons, beq_self_eq_true]
  rfl

/-- The catalog gets one more metric. -/
theorem metrics_perm_of_inserts (fresh : metric.name ∉ metrics.map Metric.name) :
    (ofMetrics more).metrics.Perm (metric :: (ofMetrics metrics).metrics) := by
  have absent : metric ∉ (ofMetrics metrics).metrics := fun member =>
    fresh (List.mem_map_of_mem (declared_of_mem member))
  have distinct : (metric :: (ofMetrics metrics).metrics).Nodup :=
    List.nodup_cons.mpr ⟨absent, (names_nodup metrics).of_map⟩
  refine (List.perm_ext_iff_of_nodup (names_nodup more).of_map distinct).mpr fun other => ?_
  have listed : ∀ metrics, other ∈ (ofMetrics metrics).metrics ↔
      (ofMetrics metrics).metric? other.name = some other :=
    fun metrics => by rw [metric?_eq_some_iff, and_iff_left rfl]
  rw [List.mem_cons]
  by_cases same : other.name = metric.name
  · have gone : other ∉ (ofMetrics metrics).metrics := fun member =>
      fresh (same ▸ List.mem_map_of_mem (declared_of_mem member))
    rw [listed, same, metric?_inserted inserted fresh, Option.some.injEq, or_iff_left gone, eq_comm]
  · have unequal : other ≠ metric := fun equal => same (congrArg Metric.name equal)
    rw [listed, metric?_of_inserts inserted same, ← listed, or_iff_right unequal]

/-- A run goes through one more metric, in between the others. -/
theorem distinctMetrics_inserts (fresh : metric.name ∉ metrics.map Metric.name) :
    Inserts metric (Generation.distinctMetrics (ofMetrics metrics))
      (Generation.distinctMetrics (ofMetrics more)) := by
  unfold Generation.distinctMetrics
  refine inserts_of_perm ?_ (sortedOn_ascending (names_nodup metrics))
    (sortedOn_ascending (names_nodup more))
  exact (sortedOn_perm _ _).trans ((metrics_perm_of_inserts inserted fresh).trans
    ((sortedOn_perm _ _).symm.cons metric))

/-- Where nothing refers to the new metric, walks from the others do not notice it. -/
theorem fold_eq_of_inserts (algebra : MetricAlgebra α)
    (unreferenced : ∀ other ∈ metrics, ∀ input ∈ other.inputs, input.name ≠ metric.name)
    {first : Metric} (declared : first ∈ metrics) :
    (ofMetrics more).fold algebra first = (ofMetrics metrics).fold algebra first := by
  refine foldFrom_congr_of_closed (· ≠ metric.name)
    (fun name different => metric?_of_inserts inserted different) ?_ algebra first.name [first.name]
    (unreferenced first declared)
  intro name nested different found input member
  rw [metric?_of_inserts inserted different] at found
  exact unreferenced nested (declared_of_mem (mem_of_metric? found)) input member

end Inserted

end SemanticLayer.MetricCatalog
