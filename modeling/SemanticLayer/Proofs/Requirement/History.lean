import SemanticLayer.Proofs.Requirement
namespace SemanticLayer.Requirement

/-! What a requirement has been asked for.

Requirements grow by single measures and by merging other requirements, which have grown in the
same way and may have another base. All that remains of such a history is which measures it asked
for. -/

open SemanticLayer.Order

/-- A step of a history. What is merged has a base and a history of its own. -/
inductive Operation where
  | require (model measure : String)
  | merge (base : String) (operations : List Operation)

mutual

def Operation.apply (requirement : Requirement) : Operation → Requirement
  | .require model measure => requirement.require model measure
  | .merge base operations => requirement.merge (applyAll (empty base) operations)

def applyAll (requirement : Requirement) : List Operation → Requirement
  | [] => requirement
  | operation :: rest => applyAll (operation.apply requirement) rest

end

def ofHistory (base : String) (operations : List Operation) : Requirement :=
  applyAll (empty base) operations

/-- The operation needs `measure` of `model`, itself or through what it merges. A requirement passes
on nothing of its own base. -/
inductive Operation.AsksFor (model measure : String) : Operation → Prop
  | require : AsksFor model measure (.require model measure)
  | merge {base operations operation} : model ≠ base → operation ∈ operations →
      operation.AsksFor model measure → AsksFor model measure (.merge base operations)

/-- Some operation asks for `measure` of `model`. -/
def Asked (operations : List Operation) (model measure : String) : Prop :=
  ∃ operation ∈ operations, operation.AsksFor model measure

section Histories

variable {base model measure : String} {operations others : List Operation}

mutual

theorem Operation.adds_apply (operation : Operation) :
    Adds (fun requirement => operation.apply requirement)
      (fun model measure => operation.AsksFor model measure) := by
  cases operation with
  | require target read =>
      refine (adds_require target read).congr fun model measure => ⟨?_, ?_⟩
      · intro asked
        cases asked
        exact ⟨rfl, rfl⟩
      · rintro ⟨rfl, rfl⟩
        exact .require
  | merge base operations =>
      refine (adds_merge (applyAll (empty base) operations)).congr fun model measure => ?_
      rw [(adds_applyAll operations).mem, or_iff_right (not_mem_measuresFor_empty base)]
      constructor
      · intro asked
        cases asked with
        | merge passed member asked => exact ⟨⟨_, member, asked⟩, passed⟩
      · rintro ⟨⟨operation, member, asked⟩, passed⟩
        exact .merge passed member asked

theorem adds_applyAll (operations : List Operation) :
    Adds (fun requirement => applyAll requirement operations) (Asked operations) := by
  unfold Asked
  cases operations with
  | nil => exact adds_nothing.congr (by simp)
  | cons operation rest =>
      exact ((operation.adds_apply).andThen (adds_applyAll rest)).congr (by simp [Asked])

end

theorem mem_ofHistory_iff :
    measure ∈ (ofHistory base operations).measuresFor model ↔
      model ≠ base ∧ Asked operations model measure := by
  unfold ofHistory
  rw [(adds_applyAll operations).mem, or_iff_right (not_mem_measuresFor_empty base), and_comm]
  rfl

/-- No history leaves an entry without a measure behind. -/
theorem noneEmpty_ofHistory (base : String) (operations : List Operation) :
    (ofHistory base operations).NoneEmpty :=
  (adds_applyAll operations).noneEmpty _ (noneEmpty_empty base)

theorem ofHistory_eq_of_asked
    (same : ∀ model measure, model ≠ base →
      (Asked others model measure ↔ Asked operations model measure)) :
    ofHistory base others = ofHistory base operations := by
  refine eq_of_mem_iff ?_ (noneEmpty_ofHistory base others) (noneEmpty_ofHistory base operations) ?_
  · exact ((adds_applyAll others).base _).trans ((adds_applyAll operations).base _).symm
  · intro model measure
    rw [mem_ofHistory_iff, mem_ofHistory_iff]
    exact and_congr_right (same model measure)

theorem isEmpty_ofHistory_iff :
    (ofHistory base operations).isEmpty ↔
      ∀ model measure, Asked operations model measure → model = base := by
  simp only [isEmpty_iff (noneEmpty_ofHistory base operations), mem_ofHistory_iff, not_and', ne_eq,
    not_not]

/-- What is accepted is listed from then on, and nothing else is. -/
theorem accepts_ofHistory_iff :
    (ofHistory base operations).accepts model ↔
      measure ∈ ((ofHistory base operations).require model measure).measuresFor model := by
  have own : (ofHistory base operations).base = base := (adds_applyAll operations).base _
  rw [(adds_require model measure).mem, mem_ofHistory_iff, accepts, bne_iff_ne, own]
  simp only [and_self, true_and]
  exact ⟨.inr, fun listed => listed.elim And.left id⟩

end Histories

/-- A requirement lists the measures that were asked for, except those of its base, and a model only
with a measure of it. Asking in another order or again changes nothing, at any depth of merging. -/
theorem ofHistory_lists_asked (base : String) (operations : List Operation) :
    (∀ model measure, measure ∈ (ofHistory base operations).measuresFor model ↔
      model ≠ base ∧ Asked operations model measure) ∧
    base ∉ (ofHistory base operations).models ∧
    (∀ model, (ofHistory base operations).contains model ↔
      ∃ measure, measure ∈ (ofHistory base operations).measuresFor model) ∧
    (∀ others, (∀ model measure, model ≠ base →
        (Asked others model measure ↔ Asked operations model measure)) →
      ofHistory base others = ofHistory base operations) ∧
    (∀ others, (∀ operation, operation ∈ others ↔ operation ∈ operations) →
      ofHistory base others = ofHistory base operations) ∧
    (ofHistory base operations).models.items.Pairwise (· < ·) ∧
    ∀ model, ((ofHistory base operations).measuresFor model).items.Pairwise (· < ·) := by
  have inhabited := noneEmpty_ofHistory base operations
  refine ⟨fun _ _ => mem_ofHistory_iff, ?_, fun _ => contains_iff inhabited,
    fun others => ofHistory_eq_of_asked, ?_, SortedSet.ascending _, fun _ => SortedSet.ascending _⟩
  · intro own
    obtain ⟨measure, member⟩ := (contains_iff inhabited).mp (mem_models_iff.mp own)
    exact (mem_ofHistory_iff.mp member).1 rfl
  · intro others same
    refine ofHistory_eq_of_asked fun model measure _ => ?_
    simp only [Asked, same]

/-- Customers ask for measures of orders, regions and of their own. -/
def customerNeeds : Operation :=
  .merge "customers" [.require "orders" "revenue", .require "customers" "headcount",
    .require "regions" "area"]

/-- Seen from orders the area of regions is listed, but neither the own revenue nor the headcount
that the customers did not need from others. Asking twice and in another order is no difference. -/
theorem customer_needs_from_orders :
    (ofHistory "orders" [customerNeeds, .require "regions" "population"] =
      ofHistory "orders" [.require "regions" "population", customerNeeds, customerNeeds]) ∧
    "area" ∈ (ofHistory "orders" [customerNeeds]).measuresFor "regions" ∧
    "revenue" ∉ (ofHistory "orders" [customerNeeds]).measuresFor "orders" ∧
    "headcount" ∉ (ofHistory "orders" [customerNeeds]).measuresFor "customers" ∧
    (ofHistory "orders" [customerNeeds]).contains "regions" := by
  obtain ⟨listed, _, present, _⟩ := ofHistory_lists_asked "orders" [customerNeeds]
  have area : Asked [customerNeeds] "regions" "area" :=
    ⟨_, List.mem_singleton.mpr rfl, .merge (by decide) (by simp) .require⟩
  have areaListed := (listed "regions" "area").mpr ⟨by decide, area⟩
  refine ⟨?_, areaListed, fun member => ((listed _ _).mp member).1 rfl, fun member => ?_,
    (present "regions").mpr ⟨"area", areaListed⟩⟩
  · refine (ofHistory_lists_asked "orders" _).2.2.2.2.1 _ fun operation => ?_
    simp only [List.mem_cons, List.not_mem_nil, or_false, or_self]
    exact or_comm
  · obtain ⟨_, operation, among, asked⟩ := (listed _ _).mp member
    rw [List.mem_singleton.mp among] at asked
    cases asked with
    | merge passed _ _ => exact passed rfl

end SemanticLayer.Requirement
