import SemanticLayer.MetricCatalog
import SemanticLayer.Project
import SemanticLayer.Proofs.Order.Lookup
namespace SemanticLayer.MetricCatalog

/-! The catalog holds the first definition of every name, and each name once. -/

variable {metrics : List Metric} {metric : Metric} {name : String}

theorem mem_firstDefinitions {seen : List String} (member : metric ∈ firstDefinitions seen metrics) :
    metric ∈ metrics ∧ metric.name ∉ seen := by
  induction metrics generalizing seen with
  | nil => cases member
  | cons head rest ih =>
      unfold firstDefinitions at member
      split at member
      · obtain ⟨later, fresh⟩ := ih member
        exact ⟨List.mem_cons_of_mem _ later, fresh⟩
      · rename_i headFresh
        rcases List.mem_cons.mp member with same | later
        · subst same
          exact ⟨List.mem_cons_self .., headFresh⟩
        · obtain ⟨declared, fresh⟩ := ih later
          exact ⟨List.mem_cons_of_mem _ declared, fun known => fresh (List.mem_cons_of_mem _ known)⟩

theorem firstDefinitions_names_nodup (seen : List String) (metrics : List Metric) :
    ((firstDefinitions seen metrics).map Metric.name).Nodup := by
  induction metrics generalizing seen with
  | nil => simp [firstDefinitions]
  | cons head rest ih =>
      unfold firstDefinitions
      split
      · exact ih seen
      · rw [List.map_cons, List.nodup_cons]
        refine ⟨fun again => ?_, ih _⟩
        obtain ⟨other, member, same⟩ := List.mem_map.mp again
        exact (mem_firstDefinitions member).2 (by simp [same])

theorem find?_firstDefinitions {seen : List String} (fresh : name ∉ seen) :
    ((firstDefinitions seen metrics).find? fun metric => metric.name == name) =
      metrics.find? fun metric => metric.name == name := by
  induction metrics generalizing seen with
  | nil => rfl
  | cons head rest ih =>
      unfold firstDefinitions
      by_cases same : head.name = name
      · subst same
        simp [fresh]
      · have later : (head.name == name) = false := by simpa using same
        split
        · rw [ih fresh, List.find?_cons, later]
        · have stillFresh : name ∉ head.name :: seen := by
            simp only [List.mem_cons, not_or]
            exact ⟨fun equal => same equal.symm, fresh⟩
          rw [List.find?_cons, List.find?_cons, later, ih stillFresh]

theorem metric?_ofMetrics (metrics : List Metric) (name : String) :
    (ofMetrics metrics).metric? name = metrics.find? fun metric => metric.name == name :=
  find?_firstDefinitions (by simp)

/-- The catalog and the project answer alike. -/
theorem metric?_ofProject (project : Project) (name : String) :
    (ofMetrics project.metrics).metric? name = project.metric? name :=
  metric?_ofMetrics project.metrics name

theorem names_nodup (metrics : List Metric) : ((ofMetrics metrics).metrics.map Metric.name).Nodup :=
  firstDefinitions_names_nodup [] metrics

theorem metric?_eq_some_iff :
    (ofMetrics metrics).metric? name = some metric ↔
      metric ∈ (ofMetrics metrics).metrics ∧ metric.name = name :=
  Order.find?_key_eq_some_iff (names_nodup metrics)

theorem mem_of_metric? {catalog : MetricCatalog} (found : catalog.metric? name = some metric) :
    metric ∈ catalog.metrics := List.mem_of_find?_eq_some found

theorem name_of_metric? {catalog : MetricCatalog} (found : catalog.metric? name = some metric) :
    metric.name = name := by
  have named := List.find?_some found
  exact beq_iff_eq.mp named

theorem declared_of_mem (member : metric ∈ (ofMetrics metrics).metrics) : metric ∈ metrics :=
  (mem_firstDefinitions member).1

theorem mem_names_iff :
    name ∈ (ofMetrics metrics).metrics.map Metric.name ↔ name ∈ metrics.map Metric.name := by
  constructor
  · intro listed
    obtain ⟨metric, member, rfl⟩ := List.mem_map.mp listed
    exact List.mem_map_of_mem (declared_of_mem member)
  · intro listed
    obtain ⟨metric, member, named⟩ := List.mem_map.mp listed
    cases found : (ofMetrics metrics).metric? name with
    | none =>
        rw [metric?_ofMetrics, List.find?_eq_none] at found
        exact absurd (beq_iff_eq.mpr named) (found metric member)
    | some first =>
        obtain ⟨inCatalog, rfl⟩ := metric?_eq_some_iff.mp found
        exact List.mem_map_of_mem inCatalog

theorem firstDefinitions_eq_self {seen : List String} (distinct : (metrics.map Metric.name).Nodup)
    (fresh : ∀ metric ∈ metrics, metric.name ∉ seen) : firstDefinitions seen metrics = metrics := by
  induction metrics generalizing seen with
  | nil => rfl
  | cons head rest ih =>
      obtain ⟨headFresh, others⟩ := List.nodup_cons.mp distinct
      have restFresh : ∀ metric ∈ rest, metric.name ∉ head.name :: seen := by
        intro metric member
        rw [List.mem_cons, not_or]
        refine ⟨fun same => headFresh ?_, fresh metric (List.mem_cons_of_mem _ member)⟩
        exact same ▸ List.mem_map_of_mem member
      rw [firstDefinitions, if_neg (fresh head (List.mem_cons_self ..)), ih others restFresh]

/-- Where no name repeats, every definition is the first one. -/
theorem ofMetrics_eq_self (distinct : (metrics.map Metric.name).Nodup) :
    ofMetrics metrics = ⟨metrics⟩ := by
  unfold ofMetrics
  rw [firstDefinitions_eq_self distinct fun _ _ => List.not_mem_nil]

end SemanticLayer.MetricCatalog
