import Mathlib.Data.List.Dedup
import SemanticLayer.LookML.Composition
import SemanticLayer.MetricCatalog.Measures
import SemanticLayer.Proofs.MetricCatalog.Walk
namespace SemanticLayer.MetricCatalog

/-! The walk as calls that share one stack.

`visit` follows references without looking at what remains of the catalog: a name is pushed before
the call for it and popped after it, and only names on the stack are refused. How deep calls may nest
is a bound of its own, so that the walk could run out of it; `conducts_visit` says that it never does
and that it ends as `foldFrom` does. -/

namespace Call

variable {α β : Type}

section Steps

variable {call : Call α} {next : α → Call β} {name : String} {before after : Calls} {value : α}
  {stop : Stop}

theorem bind_of_ok (ran : call.run before = .ok value after) :
    (call >>= next).run before = (next value).run after := by
  rw [EStateM.run_bind, ran]

theorem bind_of_error (ran : call.run before = .error stop after) :
    (call >>= next).run before = .error stop after := by
  rw [EStateM.run_bind, ran]

theorem nested_of_ok (ran : call.run (before.push name) = .ok value after) :
    (nested name call).run before = .ok value after.pop := by
  simp only [nested, EStateM.run_bind, EStateM.run_modify, ran, EStateM.run_pure]

theorem nested_of_error (ran : call.run (before.push name) = .error stop after) :
    (nested name call).run before = .error stop after := by
  simp only [nested, EStateM.run_bind, EStateM.run_modify, ran]

end Steps

/-- A call that ends with a value leaves the stack as it was. -/
def Restores (call : Call α) : Prop :=
  ∀ before value after, call.run before = .ok value after → after.stack = before.stack

theorem Restores.bind {call : Call α} {next : α → Call β} (first : call.Restores)
    (rest : ∀ value, (next value).Restores) : (call >>= next).Restores := by
  intro before value after ended
  cases ran : call.run before with
  | ok middle between =>
      rw [bind_of_ok ran] at ended
      exact (rest middle _ _ _ ended).trans (first _ _ _ ran)
  | error stop between =>
      rw [bind_of_error ran] at ended
      cases ended

theorem restores_throw (stop : Stop) : (throw stop : Call α).Restores := by
  intro before value after ended
  cases ended

theorem restores_settle (outcome : Except MetricError α) : (settle outcome).Restores := by
  intro before value after ended
  cases outcome with
  | ok => cases ended; rfl
  | error => cases ended

theorem restores_get : (get : Call Calls).Restores := by
  intro before value after ended
  cases ended
  rfl

theorem restores_record : (modify Calls.record : Call Unit).Restores := by
  intro before value after ended
  cases ended
  rfl

theorem Restores.nested {call : Call α} (restores : call.Restores) (name : String) :
    (Call.nested name call).Restores := by
  intro before value after ended
  cases ran : call.run (before.push name) with
  | ok middle between =>
      rw [nested_of_ok ran] at ended
      cases ended
      rw [Calls.pop, restores _ _ _ ran, Calls.push, List.dropLast_concat]
  | error stop between =>
      rw [nested_of_error ran] at ended
      cases ended

theorem Restores.mapM {items : List β} {each : β → Call α} (restores : ∀ item, (each item).Restores) :
    (items.mapM each).Restores := by
  induction items with
  | nil => exact restores_settle (.ok [])
  | cons item rest ih =>
      rw [List.mapM_cons]
      exact (restores item).bind fun value => ih.bind fun values => restores_settle (.ok _)

end Call

/-- The names in the catalog, each once. -/
def names (catalog : MetricCatalog) : List String := (catalog.metrics.map Metric.name).dedup

variable {α β : Type} {catalog : MetricCatalog} {algebra : MetricAlgebra α} {root : Metric}
  {rootName name : String} {stack : List String} {input : MetricInput}

/-- Whatever the kind of the metric, its inputs come first. -/
theorem visit_succ (catalog : MetricCatalog) (algebra : MetricAlgebra α) (root : String) (depth : Nat)
    (metric : Metric) :
    catalog.visit algebra root (depth + 1) metric =
      (modify Calls.record >>= fun _ =>
        metric.inputs.mapM (catalog.visitInput root (catalog.visit algebra root depth)) >>= fun operands =>
          Call.settle (algebra.combine metric.kind operands)) := by
  obtain ⟨name, kind⟩ := metric
  rw [visit]
  cases kind <;> rfl

theorem restores_visitInput {call : Metric → Call α} (restores : ∀ metric, (call metric).Restores)
    (input : MetricInput) : (catalog.visitInput rootName call input).Restores := by
  refine Call.restores_get.bind fun calls => ?_
  unfold follow
  split
  · exact Call.restores_throw _
  · split
    · exact Call.restores_throw _
    · exact ((restores _).nested _).bind fun value => Call.restores_settle (.ok _)

theorem restores_visit (catalog : MetricCatalog) (algebra : MetricAlgebra α) (root : String)
    (depth : Nat) (metric : Metric) : (catalog.visit algebra root depth metric).Restores := by
  induction depth generalizing metric with
  | zero => exact Call.restores_throw .tooDeep
  | succ depth ih =>
      rw [visit_succ]
      exact Call.restores_record.bind fun _ =>
        (Call.Restores.mapM fun input => restores_visitInput ih input).bind fun operands =>
          Call.restores_settle _

/-- The stack of a call in the walk from `root`. -/
structure IsCallStack (catalog : MetricCatalog) (root : Metric) (stack : List String) : Prop where
  distinct : stack.Nodup
  entered : ∃ others, stack = root.name :: others ∧ others ⊆ catalog.names

namespace IsCallStack

theorem start (catalog : MetricCatalog) (root : Metric) : catalog.IsCallStack root [root.name] :=
  ⟨List.nodup_singleton _, [], rfl, List.nil_subset _⟩

variable (holds : catalog.IsCallStack root stack)
include holds

theorem push {metric : Metric} (fresh : name ∉ stack) (found : catalog.metric? name = some metric) :
    catalog.IsCallStack root (stack ++ [name]) := by
  obtain ⟨others, rfl, inCatalog⟩ := holds.entered
  refine ⟨?_, others ++ [name], rfl, ?_⟩
  · rw [← List.concat_eq_append]
    exact holds.distinct.concat fresh
  · have named : name ∈ catalog.names := by
      rw [names, List.mem_dedup, ← name_of_metric? found]
      exact List.mem_map_of_mem (mem_of_metric? found)
    exact List.append_subset.mpr ⟨inCatalog, List.cons_subset.mpr ⟨named, List.nil_subset _⟩⟩

theorem length_le : stack.length ≤ catalog.names.length + 1 := by
  obtain ⟨others, rfl, inCatalog⟩ := holds.entered
  have distinct := (List.nodup_cons.mp holds.distinct).2
  exact Nat.succ_le_succ (List.subperm_of_subset distinct inCatalog).length_le

end IsCallStack

/-- Wherever this is the stack, `call` ends with `outcome`, and all that it calls has a stack of the
walk from `root`. -/
def Conducts (catalog : MetricCatalog) (root : Metric) (stack : List String) (call : Call α)
    (outcome : Except MetricError α) : Prop :=
  ∀ before : Calls, before.stack = stack → ∃ after,
    call.run before = (Call.settle outcome).run after ∧
    ∀ called ∈ after.log, called ∈ before.log ∨ catalog.IsCallStack root called

namespace Conducts

theorem settle (outcome : Except MetricError α) :
    catalog.Conducts root stack (Call.settle outcome) outcome :=
  fun before _ => ⟨before, rfl, fun _ => .inl⟩

theorem bind {call : Call α} {next : α → Call β} {outcome : Except MetricError α}
    {following : α → Except MetricError β} (restores : call.Restores)
    (first : catalog.Conducts root stack call outcome)
    (rest : ∀ value, outcome = .ok value → catalog.Conducts root stack (next value) (following value)) :
    catalog.Conducts root stack (call >>= next) (outcome >>= following) := by
  intro before standing
  obtain ⟨between, ran, made⟩ := first before standing
  cases outcome with
  | error reason =>
      exact ⟨between, Call.bind_of_error ran, made⟩
  | ok value =>
      obtain ⟨after, continued, later⟩ := rest value rfl between ((restores _ _ _ ran).trans standing)
      refine ⟨after, (Call.bind_of_ok ran).trans continued, fun called member => ?_⟩
      rcases later called member with earlier | new
      · exact made called earlier
      · exact .inr new

theorem recorded {call : Call α} {outcome : Except MetricError α}
    (holds : catalog.IsCallStack root stack) (later : catalog.Conducts root stack call outcome) :
    catalog.Conducts root stack (modify Calls.record >>= fun _ => call) outcome := by
  have recording : catalog.Conducts root stack (modify Calls.record) (.ok ⟨⟩) := by
    intro before standing
    refine ⟨before.record, rfl, fun called member => ?_⟩
    rcases List.mem_append.mp member with earlier | new
    · exact .inl earlier
    · rw [List.mem_singleton.mp new, standing]
      exact .inr holds
  exact bind Call.restores_record recording fun _ _ => later

theorem nested {call : Call α} {outcome : Except MetricError α}
    (inner : catalog.Conducts root (stack ++ [name]) call outcome) :
    catalog.Conducts root stack (call.nested name) outcome := by
  intro before standing
  obtain ⟨after, ran, made⟩ := inner (before.push name) (by rw [Calls.push, standing])
  cases outcome with
  | ok value => exact ⟨after.pop, Call.nested_of_ok ran, made⟩
  | error reason => exact ⟨after, Call.nested_of_error ran, made⟩

theorem mapM {items : List β} {each : β → Call α} {outcomes : β → Except MetricError α}
    (restores : ∀ item, (each item).Restores)
    (conducts : ∀ item ∈ items, catalog.Conducts root stack (each item) (outcomes item)) :
    catalog.Conducts root stack (items.mapM each) (items.mapM outcomes) := by
  induction items with
  | nil => exact settle (.ok [])
  | cons item rest ih =>
      rw [List.mapM_cons, List.mapM_cons]
      refine bind (restores item) (conducts item (List.mem_cons_self ..)) fun value _ => ?_
      have others := ih fun other member => conducts other (List.mem_cons_of_mem _ member)
      exact bind (Call.Restores.mapM restores) others fun values _ => settle (.ok (value :: values))

theorem visitInput {call : Metric → Call α} (restores : ∀ metric, (call metric).Restores)
    (inner : ∀ metric, input.name ∉ stack → catalog.metric? input.name = some metric →
      catalog.Conducts root (stack ++ [input.name]) (call metric)
        (catalog.foldFrom algebra root.name (stack ++ [input.name]) metric)) :
    catalog.Conducts root stack (catalog.visitInput root.name call input)
      (catalog.operand algebra root.name stack input) := by
  have followed : catalog.Conducts root stack (catalog.follow root.name call input stack)
      (catalog.operand algebra root.name stack input) := by
    unfold follow operand
    by_cases known : input.name ∈ stack
    · rw [if_pos known, if_pos known]
      exact settle (.error _)
    · rw [if_neg known, if_neg known]
      cases found : catalog.metric? input.name with
      | none => exact settle (.error _)
      | some metric =>
          exact bind ((restores metric).nested _) (inner metric known found).nested fun value _ =>
            settle (.ok _)
  intro before standing
  obtain ⟨after, ran, made⟩ := followed before standing
  refine ⟨after, ?_, made⟩
  rw [← ran, ← standing]
  rfl

end Conducts

/-- The calls end as the walk does. They cannot nest too deep: what the bound leaves and the stack
add up to the same at every call, and a stack is no longer than the catalog allows. -/
theorem conducts_visit (algebra : MetricAlgebra α) (depth : Nat) (metric : Metric)
    (holds : catalog.IsCallStack root stack)
    (enough : catalog.names.length + 1 < depth + stack.length) :
    catalog.Conducts root stack (catalog.visit algebra root.name depth metric)
      (catalog.foldFrom algebra root.name stack metric) := by
  induction depth generalizing stack metric with
  | zero =>
      have short := holds.length_le
      omega
  | succ depth ih =>
      have restores := restores_visit catalog algebra root.name depth
      have each : ∀ input ∈ metric.inputs, catalog.Conducts root stack
          (catalog.visitInput root.name (catalog.visit algebra root.name depth) input)
          (catalog.operand algebra root.name stack input) := by
        intro input _
        refine .visitInput restores fun nested fresh found => ih nested (holds.push fresh found) ?_
        rw [List.length_append, List.length_singleton]
        omega
      rw [visit_succ, foldFrom_eq]
      have inputs := Conducts.mapM (restores_visitInput restores) each
      refine .recorded holds (.bind ?_ inputs fun operands _ => .settle _)
      exact Call.Restores.mapM (restores_visitInput restores)

/-- The calls for `root` end with `outcome`, whatever they may nest beyond the names in the catalog.
On every stack that they see, names are distinct and all but the first are in the catalog. -/
structure Ends (catalog : MetricCatalog) (algebra : MetricAlgebra α) (root : Metric)
    (outcome : Except MetricError α) : Prop where
  ends : ∀ spare, ∃ after,
    (catalog.visit algebra root.name (catalog.names.length + 1 + spare) root).run (.start root) =
      (Call.settle outcome).run after ∧
    ∀ stack ∈ after.log, catalog.IsCallStack root stack ∧ stack.length ≤ catalog.names.length + 1
  restores : ∀ depth metric, (catalog.visit algebra root.name depth metric).Restores

theorem ends_fold (catalog : MetricCatalog) (algebra : MetricAlgebra α) (root : Metric) :
    catalog.Ends algebra root (catalog.fold algebra root) := by
  refine ⟨fun spare => ?_, restores_visit catalog algebra root.name⟩
  have enough : catalog.names.length + 1 < catalog.names.length + 1 + spare + [root.name].length := by
    rw [List.length_singleton]
    omega
  have conducts := conducts_visit algebra _ root (.start catalog root) enough
  obtain ⟨after, ran, made⟩ := conducts (.start root) rfl
  refine ⟨after, ran, fun stack called => ?_⟩
  rcases made stack called with before | holds
  · cases before
  · exact ⟨holds, holds.length_le⟩

/-- Both walks over metrics, for their measures and for their SQL, end on every catalog. -/
theorem walks_end_on_every_catalog (catalog : MetricCatalog) (metric : Metric) :
    catalog.Ends measureAlgebra metric (catalog.measures metric) ∧
    ∀ (set : ModelSet) (naming : LookML.Naming) (anchorModel : String),
      catalog.Ends (LookML.Composition.algebra set naming metric.name anchorModel) metric
        (LookML.compose set catalog naming anchorModel metric) :=
  ⟨ends_fold .., fun _ _ _ => ends_fold ..⟩

/-- A derived metric beside the catalog is on the stack together with both names of the catalog. -/
example :
    let share : Metric := { name := "share", kind := .derived "1 - rest" [{ name := "rest" }] }
    let catalog := ofMetrics [
      { name := "rest", kind := .derived "cost" [{ name := "cost" }] },
      { name := "cost", kind := .simple "cost" }]
    ∃ value, (catalog.visit measureAlgebra "share" 3 share).run (.start share) =
      .ok value ⟨["share"], [["share"], ["share", "rest"], ["share", "rest", "cost"]]⟩ :=
  ⟨_, rfl⟩

end SemanticLayer.MetricCatalog
