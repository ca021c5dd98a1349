import Mathlib.Data.List.Sort
import SemanticLayer.Proofs.Order.Sorting
namespace SemanticLayer.Order

/-! Lists in strictly ascending order inside one another.

Where a key tells the items apart and puts them in order, the items of a list decide where they
stand in a longer one. -/

variable {α : Type u} {β : Type v} {key : α → String} {item : α} {first second items more : List α}

/-- `more` is `items` with `item` put in at one place. -/
def Inserts (item : α) (items more : List α) : Prop :=
  ∃ before after, items = before ++ after ∧ more = before ++ item :: after

theorem Inserts.perm (inserts : Inserts item items more) : more.Perm (item :: items) := by
  obtain ⟨before, after, rfl, rfl⟩ := inserts
  exact List.perm_middle

theorem Inserts.map (inserts : Inserts item items more) (f : α → β) :
    Inserts (f item) (items.map f) (more.map f) := by
  obtain ⟨before, after, rfl, rfl⟩ := inserts
  exact ⟨before.map f, after.map f, List.map_append, by rw [List.map_append, List.map_cons]⟩

theorem Inserts.append_left (inserts : Inserts item items more) (front : List α) :
    Inserts item (front ++ items) (front ++ more) := by
  obtain ⟨before, after, rfl, rfl⟩ := inserts
  exact ⟨front ++ before, after, (List.append_assoc ..).symm, (List.append_assoc ..).symm⟩

/-- An item that fails the test is not noticed behind it. -/
theorem Inserts.filter_eq {test : α → Bool} (inserts : Inserts item items more)
    (fails : test item = false) : more.filter test = items.filter test := by
  obtain ⟨before, after, rfl, rfl⟩ := inserts
  rw [List.filter_append, List.filter_append, List.filter_cons_of_neg (by simp [fails])]

theorem Inserts.sublist (inserts : Inserts item items more) : items.Sublist more := by
  obtain ⟨before, after, rfl, rfl⟩ := inserts
  exact (List.sublist_cons_self item after).append_left before

theorem Inserts.filterMap_some {pick : α → Option β} {picked : β}
    (inserts : Inserts item items more) (kept : pick item = some picked) :
    Inserts picked (items.filterMap pick) (more.filterMap pick) := by
  obtain ⟨before, after, rfl, rfl⟩ := inserts
  exact ⟨before.filterMap pick, after.filterMap pick, List.filterMap_append,
    by rw [List.filterMap_append, List.filterMap_cons_some kept]⟩

theorem Inserts.filterMap_none {pick : α → Option β} (inserts : Inserts item items more)
    (dropped : pick item = none) : more.filterMap pick = items.filterMap pick := by
  obtain ⟨before, after, rfl, rfl⟩ := inserts
  rw [List.filterMap_append, List.filterMap_append, List.filterMap_cons_none dropped]

theorem keys_nodup_of_ascending (ascending : (items.map key).Pairwise (· < ·)) :
    (items.map key).Nodup := by
  refine ascending.imp fun {lower upper} below same => ?_
  rw [same] at below
  exact String.lt_irrefl _ below

theorem eq_of_perm_of_ascending (same : first.Perm second)
    (firstAscending : (first.map key).Pairwise (· < ·))
    (secondAscending : (second.map key).Pairwise (· < ·)) : first = second := by
  refine same.eq_of_pairwise ?_ (List.pairwise_map.mp firstAscending)
    (List.pairwise_map.mp secondAscending)
  intro lower upper _ _ below above
  exact absurd (String.lt_trans below above) (String.lt_irrefl _)

theorem sublist_of_subset_of_ascending (key : α → String) (contained : first ⊆ second)
    (firstAscending : (first.map key).Pairwise (· < ·))
    (secondAscending : (second.map key).Pairwise (· < ·)) : first.Sublist second := by
  have antisymmetric : Std.Antisymm fun lower upper : α => key lower < key upper :=
    ⟨fun _ _ below above => absurd (String.lt_trans below above) (String.lt_irrefl _)⟩
  exact List.sublist_of_subperm_of_pairwise
    (List.subperm_of_subset (keys_nodup_of_ascending firstAscending).of_map contained)
    (List.pairwise_map.mp firstAscending) (List.pairwise_map.mp secondAscending)

/-- One more item stands somewhere between the others, and these stay in order. -/
theorem inserts_of_perm (same : more.Perm (item :: items))
    (ascending : (items.map key).Pairwise (· < ·))
    (moreAscending : (more.map key).Pairwise (· < ·)) : Inserts item items more := by
  obtain ⟨before, after, rfl⟩ := List.append_of_mem (same.mem_iff.mpr (List.mem_cons_self ..))
  have others : (before ++ after).Perm items := (List.perm_middle.symm.trans same).cons_inv
  have othersAscending : ((before ++ after).map key).Pairwise (· < ·) :=
    moreAscending.sublist (((List.sublist_cons_self item after).append_left before).map key)
  exact ⟨before, after, (eq_of_perm_of_ascending others othersAscending ascending).symm, rfl⟩

theorem orderedInsert_append {le : α → α → Bool} (below : ∀ other ∈ second, le item other) :
    orderedInsert le item (first ++ second) = orderedInsert le item first ++ second := by
  induction first with
  | nil =>
      cases second with
      | nil => rfl
      | cons head rest => simp [orderedInsert, below head (List.mem_cons_self ..)]
  | cons head rest ih =>
      rw [List.cons_append, orderedInsert, orderedInsert, ih]
      split <;> rfl

theorem sorted_append {le : α → α → Bool}
    (below : ∀ item ∈ first, ∀ other ∈ second, le item other) :
    sorted le (first ++ second) = sorted le first ++ sorted le second := by
  induction first with
  | nil => rfl
  | cons head rest ih =>
      rw [List.cons_append, sorted, sorted,
        ih fun item member => below item (List.mem_cons_of_mem _ member)]
      refine orderedInsert_append fun other member => ?_
      exact below head (List.mem_cons_self ..) other ((mem_sorted _ _ _).mp member)

end SemanticLayer.Order
