import Mathlib.Data.List.Chain
import SemanticLayer.Proofs.MetricCatalog.Measures
namespace SemanticLayer.MetricCatalog

/-! Why a walk over references ends without a value.

Unless a metric is refused by itself, the walk came along a trail of distinct names to a reference
that is undefined or that leads back into the trail. In the second case the error shows the part of
the trail from that name on, which is a cycle of references. -/

/-- `reason` reports the first reference on a trail from `root` that cannot be followed. -/
inductive Obstacle (catalog : MetricCatalog) (root : Metric) : MetricError → Prop
  | undefined {path metric input} : catalog.Trail root path metric → input ∈ metric.inputs →
      catalog.metric? input.name = none →
      Obstacle catalog root (.unknownMetricReference root.name input.name)
  | circular {path metric input} : catalog.Trail root path metric → path.Nodup →
      input ∈ metric.inputs → input.name ∈ path →
      Obstacle catalog root (.circularMetricReference root.name (cycleAt path input.name))

variable {catalog : MetricCatalog} {algebra : MetricAlgebra α} {root metric : Metric}
  {path : List String} {name : String} {input : MetricInput} {reason : MetricError}

theorem obstacle_of_foldFrom_error (trail : catalog.Trail root path metric) (distinct : path.Nodup)
    (failed : catalog.foldFrom algebra root.name path metric = .error reason) :
    catalog.Obstacle root reason ∨ ∃ path inner operands,
      catalog.Trail root path inner ∧ algebra.combine inner.kind operands = .error reason := by
  -- On the number of names that may still be entered; the distinct path is what the induction carries.
  generalize size : catalog.unvisited path = bound
  induction bound using Nat.strongRecOn generalizing path metric with
  | ind bound ih =>
      rw [foldFrom_eq] at failed
      rcases Attempt.bind_eq_error_iff.mp failed with inputs | ⟨operands, _, combined⟩
      · obtain ⟨input, member, refused⟩ := Attempt.exists_of_mapM_eq_error inputs
        unfold operand at refused
        by_cases known : input.name ∈ path
        · rw [if_pos known] at refused
          cases refused
          exact .inl (.circular trail distinct member known)
        · rw [if_neg known] at refused
          cases found : catalog.metric? input.name with
          | none =>
              simp only [found] at refused
              cases refused
              exact .inl (.undefined trail member found)
          | some nested =>
              simp only [found] at refused
              rcases Attempt.bind_eq_error_iff.mp refused with inner | ⟨value, _, impossible⟩
              · have longer : (path ++ [input.name]).Nodup := by
                  rw [← List.concat_eq_append]
                  exact distinct.concat known
                exact ih _ (size ▸ unvisited_lt known found) (trail.extend member found) longer inner rfl
              · cases impossible
      · exact .inr ⟨path, metric, operands, trail, combined⟩

theorem obstacle_of_measures_error (failed : catalog.measures root = .error reason) :
    catalog.Obstacle root reason := by
  rcases obstacle_of_foldFrom_error .start (List.nodup_singleton _) failed with
    obstacle | ⟨_, inner, operands, _, combined⟩
  · exact obstacle
  · -- The algebra of measures answers for every kind.
    generalize inner.kind = kind at combined
    cases kind <;> cases combined

theorem Obstacle.metric_eq (obstacle : catalog.Obstacle root reason) : reason.metric = root.name := by
  cases obstacle <;> rfl

/-- No metric that can be reached from `root` is refused by itself. -/
def Accepts (catalog : MetricCatalog) (algebra : MetricAlgebra α) (root : Metric) : Prop :=
  ∀ path metric, catalog.Trail root path metric → ∃ value, algebra.combine metric.kind [] = .ok value

theorem accepts_measures (root : Metric) : catalog.Accepts measureAlgebra root :=
  fun _ inner _ => exists_combine_measures inner.kind

/-- Two walks on which nothing but references can fail end with the same error, if any. -/
theorem error?_foldFrom_eq {α β : Type} {algebra : MetricAlgebra α} {other : MetricAlgebra β}
    (accepts : catalog.Accepts algebra root) (otherAccepts : catalog.Accepts other root)
    (trail : catalog.Trail root path metric) :
    Attempt.error? (catalog.foldFrom algebra root.name path metric) =
      Attempt.error? (catalog.foldFrom other root.name path metric) := by
  generalize size : catalog.unvisited path = bound
  induction bound using Nat.strongRecOn generalizing path metric with
  | ind bound ih =>
      rw [foldFrom_eq, foldFrom_eq,
        Attempt.error?_bind fun operands =>
          (MetricAlgebra.exists_combine_iff operands).mpr (accepts path metric trail),
        Attempt.error?_bind fun operands =>
          (MetricAlgebra.exists_combine_iff operands).mpr (otherAccepts path metric trail)]
      refine Attempt.error?_mapM_congr fun input member => ?_
      unfold operand
      by_cases known : input.name ∈ path
      · rw [if_pos known, if_pos known]
        rfl
      · rw [if_neg known, if_neg known]
        cases found : catalog.metric? input.name with
        | none => rfl
        | some nested =>
            have inner := ih _ (size ▸ unvisited_lt known found) (trail.extend member found) rfl
            exact (Attempt.error?_bind fun value => ⟨_, rfl⟩).trans
              (inner.trans (Attempt.error?_bind fun value => ⟨_, rfl⟩).symm)

/-- `name` is a derived metric with `other` among its inputs. -/
def RefersTo (catalog : MetricCatalog) (name other : String) : Prop :=
  ∃ metric, catalog.metric? name = some metric ∧ ∃ input ∈ metric.inputs, input.name = other

/-- The first name comes back at the end, and no other one is met twice. -/
structure ReferenceCycle (catalog : MetricCatalog) (cycle : List String) : Prop where
  closed : ∃ first rest, cycle = first :: rest ++ [first] ∧ (first :: rest).Nodup
  steps : cycle.IsChain catalog.RefersTo

/-- The references from `root` run along `approach` into `cycle`. -/
structure RunsInto (catalog : MetricCatalog) (root : Metric) (approach cycle : List String) : Prop where
  steps : (approach ++ cycle).IsChain catalog.RefersTo
  start : (approach ++ cycle).head? = some root.name
  distinct : (approach ++ cycle).dropLast.Nodup
  cycle : catalog.ReferenceCycle cycle

theorem Trail.exists_of_mem (trail : catalog.Trail root path metric) (member : name ∈ path) :
    ∃ before inner, catalog.Trail root before inner ∧ inner.name = name := by
  induction trail with
  | start => exact ⟨_, root, .start, (List.mem_singleton.mp member).symm⟩
  | extend before among found ih =>
      rcases List.mem_append.mp member with earlier | last
      · exact ih earlier
      · rw [List.mem_singleton.mp last]
        exact ⟨_, _, before.extend among found, name_of_metric? found⟩

theorem Trail.head (trail : catalog.Trail root path metric) : path.head? = some root.name := by
  induction trail with
  | start => rfl
  | extend _ _ _ ih => rw [List.head?_append, ih]; rfl

theorem exists_cycleAt_eq (known : name ∈ path) :
    ∃ approach rest, path = approach ++ name :: rest ∧ cycleAt path name = name :: rest ++ [name] := by
  obtain ⟨approach, rest, rfl, fresh⟩ := List.eq_append_cons_of_mem known
  refine ⟨approach, rest, rfl, ?_⟩
  have passed : ∀ other ∈ approach, (other != name) = true :=
    fun other member => bne_iff_ne.mpr fun same => fresh (same ▸ member)
  rw [cycleAt, List.dropWhile_append_of_pos passed, List.dropWhile_cons_of_neg (by simp)]

theorem exists_trail_of_mem_cycleAt {other : String} (trail : catalog.Trail root path metric)
    (known : name ∈ path) (member : other ∈ cycleAt path name) :
    ∃ before inner, catalog.Trail root before inner ∧ inner.name = other := by
  obtain ⟨approach, rest, rfl, cut⟩ := exists_cycleAt_eq known
  rw [cut, List.mem_append, List.mem_singleton] at member
  rcases member with inside | rfl
  · exact trail.exists_of_mem (List.mem_append_right _ inside)
  · exact trail.exists_of_mem known

section Declared

variable (declared : catalog.metric? root.name = some root)
include declared

theorem Trail.ends (trail : catalog.Trail root path metric) :
    path.getLast? = some metric.name ∧ catalog.metric? metric.name = some metric := by
  cases trail with
  | start => exact ⟨rfl, declared⟩
  | extend _ _ found =>
      rw [name_of_metric? found]
      exact ⟨List.getLast?_concat, found⟩

theorem Trail.isChain_concat (trail : catalog.Trail root path metric) (chain : path.IsChain catalog.RefersTo)
    (member : input ∈ metric.inputs) : (path ++ [input.name]).IsChain catalog.RefersTo := by
  obtain ⟨last, found⟩ := trail.ends declared
  refine chain.append (List.isChain_singleton _) fun name ended other first => ?_
  rw [last, Option.mem_some] at ended
  rw [List.head?_singleton, Option.mem_some] at first
  exact ⟨metric, ended ▸ found, input, member, first⟩

theorem Trail.isChain (trail : catalog.Trail root path metric) : path.IsChain catalog.RefersTo := by
  induction trail with
  | start => exact List.isChain_singleton _
  | extend before member _ ih => exact before.isChain_concat declared ih member

theorem runsInto_cycleAt (trail : catalog.Trail root path metric) (distinct : path.Nodup)
    (member : input ∈ metric.inputs) (known : input.name ∈ path) :
    ∃ approach, catalog.RunsInto root approach (cycleAt path input.name) := by
  have chain := trail.isChain_concat declared (trail.isChain declared) member
  -- The trail up to the name that comes back is the approach, the rest of it the cycle.
  obtain ⟨approach, rest, rfl, cut⟩ := exists_cycleAt_eq known
  rw [List.append_assoc, ← cut] at chain
  refine ⟨approach, chain, ?_, ?_, ⟨input.name, rest, cut, distinct.of_append_right⟩,
    chain.right_of_append⟩
  · rw [cut, ← List.append_assoc, List.head?_append, trail.head]
    rfl
  · rw [cut, ← List.append_assoc, List.dropLast_concat]
    exact distinct

end Declared

theorem RunsInto.mem_iff {approach cycle : List String} (runs : catalog.RunsInto root approach cycle) :
    root.name ∈ cycle ↔ approach = [] := by
  obtain ⟨first, rest, rfl, _⟩ := runs.cycle.closed
  have distinct := runs.distinct
  rw [← List.append_assoc, List.dropLast_concat] at distinct
  constructor
  · intro member
    have onCycle : root.name ∈ first :: rest := by simpa [or_comm, or_assoc] using member
    cases approach with
    | nil => rfl
    | cons name before =>
        -- An approach starts at the root, which would then be met twice.
        have same : name = root.name := Option.some.inj runs.start
        have apart := (List.nodup_append.mp distinct).2.2 name (List.mem_cons_self ..) _ onCycle
        exact absurd same apart
  · rintro rfl
    have same : first = root.name := Option.some.inj runs.start
    simp [same]

/-- Measures are extracted exactly when every reference on the way is defined and none comes back,
and then they are those that the metric and the metrics behind it name. An error reports a reference
that is undefined, or a cycle of references that can be reached. -/
theorem measures_closure (declared : catalog.metric? metric.name = some metric) :
    ((∃ measures, catalog.measures metric = .ok measures) ↔
      catalog.Defined metric ∧ catalog.Acyclic metric) ∧
    (∀ measures, catalog.measures metric = .ok measures → ∀ measure, measure ∈ measures ↔
      ∃ path inner, catalog.Trail metric path inner ∧ measure ∈ inner.kind.payload) ∧
    ∀ reason, catalog.measures metric = .error reason →
      (∃ path inner, catalog.Trail metric path inner ∧ ∃ input ∈ inner.inputs,
        catalog.metric? input.name = none ∧
        reason = .unknownMetricReference metric.name input.name) ∨
      ∃ cycle, reason = .circularMetricReference metric.name cycle ∧
        catalog.ReferenceCycle cycle ∧
        ∀ name ∈ cycle, ∃ path inner, catalog.Trail metric path inner ∧ inner.name = name := by
  refine ⟨exists_measures_iff, fun measures extracted measure => mem_measures_iff extracted, ?_⟩
  intro reason failed
  cases obstacle_of_measures_error failed with
  | undefined trail member missing => exact .inl ⟨_, _, trail, _, member, missing, rfl⟩
  | circular trail distinct member known =>
      obtain ⟨approach, runs⟩ := runsInto_cycleAt declared trail distinct member known
      exact .inr ⟨_, rfl, runs.cycle, fun name among => exists_trail_of_mem_cycleAt trail known among⟩

/-- The margin uses the revenue twice. -/
def margin : Metric :=
  { name := "margin", kind := .derived "profit / revenue" [{ name := "profit" }, { name := "revenue" }] }

/-- Growth and trend refer to each other. -/
def growth : Metric :=
  { name := "growth", kind := .derived "trend - 1" [{ name := "trend" }] }

/-- The outlook leads to growth and trend, and nothing refers to it. -/
def outlook : Metric :=
  { name := "outlook", kind := .derived "profit * growth" [{ name := "profit" }, { name := "growth" }] }

def forecasts : MetricCatalog := .ofMetrics [
  { name := "revenue", kind := .simple "revenue" },
  { name := "cost", kind := .simple "cost" },
  { name := "profit", kind := .derived "revenue - cost" [{ name := "revenue" }, { name := "cost" }] },
  { name := "trend", kind := .derived "growth + 1" [{ name := "growth" }] },
  margin,
  growth,
  outlook]

/-- The cost is a measure of the margin because the profit names it. The outlook has no measures
because of a cycle that it leads to. -/
theorem margin_reaches_cost :
    (∃ measures, forecasts.metric? margin.name = some margin ∧
      forecasts.measures margin = .ok measures ∧ measures.items = ["cost", "revenue"] ∧
      ∃ path inner, forecasts.Trail margin path inner ∧ "cost" ∈ inner.kind.payload) ∧
    ∃ cycle, forecasts.metric? outlook.name = some outlook ∧
      forecasts.measures outlook = .error (.circularMetricReference "outlook" cycle) ∧
      forecasts.ReferenceCycle cycle ∧
      ∀ name ∈ cycle, ∃ path inner, forecasts.Trail outlook path inner ∧ inner.name = name := by
  constructor
  · obtain ⟨measures, extracted, listed⟩ := Attempt.exists_ok_of_any (forecasts.measures margin)
      (fun measures => measures.items == ["cost", "revenue"]) (by decide +kernel)
    rw [beq_iff_eq] at listed
    have member : "cost" ∈ measures := by
      rw [Order.SortedSet.mem_def, listed]
      exact List.mem_cons_self ..
    exact ⟨measures, rfl, extracted, listed, ((measures_closure rfl).2.1 measures extracted "cost").mp member⟩
  · have failed : forecasts.measures outlook =
        .error (.circularMetricReference "outlook" ["growth", "trend", "growth"]) := by decide +kernel
    rcases (measures_closure rfl).2.2 _ failed with ⟨_, _, _, _, _, _, other⟩ | ⟨cycle, same, closes, reached⟩
    · cases other
    · cases same
      exact ⟨_, rfl, failed, closes, reached⟩

end SemanticLayer.MetricCatalog
