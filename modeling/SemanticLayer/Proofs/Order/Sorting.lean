import Mathlib.Data.List.Nodup
import Mathlib.Data.List.Perm.Basic
import SemanticLayer.Order.Sorting
import SemanticLayer.Order.SortedSet
namespace SemanticLayer.Order

/-! Sorting and grouping by a key that tells the items apart. -/

variable {α : Type u} {key : α → String} {first second items : List α}

theorem sortedOn_perm (key : α → String) (items : List α) : (sortedOn key items).Perm items :=
  sorted_perm _ items

theorem sortedOn_ascending (distinct : (items.map key).Nodup) :
    ((sortedOn key items).map key).Pairwise (· < ·) := by
  have different : ((sortedOn key items).map key).Nodup :=
    ((sortedOn_perm key items).map key).nodup_iff.mpr distinct
  have ordered : ((sortedOn key items).map key).Pairwise (· ≤ ·) :=
    List.pairwise_map.mpr (sortedOn_pairwise key items)
  refine (ordered.and different).imp fun {lower upper} both => ?_
  obtain ⟨atMost, unequal⟩ := both
  rcases StrictOrder.connected lower upper with below | same | above
  · exact below
  · exact absurd same unequal
  · exact absurd atMost (String.not_le.mpr above)

section Split

variable {before after : List α} {item : α}
  (ascending : ((before ++ item :: after).map key).Pairwise (· < ·))
include ascending

theorem lt_of_split_ascending :
    (∀ other ∈ before, key other < key item) ∧ ∀ other ∈ after, key item < key other := by
  rw [List.map_append, List.map_cons, List.pairwise_append, List.pairwise_cons] at ascending
  obtain ⟨_, ⟨above, _⟩, across⟩ := ascending
  exact ⟨fun other member => across _ (List.mem_map_of_mem member) _ (List.mem_cons_self ..),
    fun other member => above _ (List.mem_map_of_mem member)⟩

/-- The items below one of them are those that stand before it. -/
theorem filter_lt_of_ascending :
    (before ++ item :: after).filter (fun other => key other < key item) = before := by
  obtain ⟨below, above⟩ := lt_of_split_ascending ascending
  rw [List.filter_append, List.filter_eq_self.mpr, List.filter_eq_nil_iff.mpr, List.append_nil]
  · intro other member
    rcases List.mem_cons.mp member with rfl | later
    · simp
    · simpa using String.lt_asymm (above other later)
  · exact fun other member => decide_eq_true (below other member)

theorem filter_le_of_ascending :
    (before ++ item :: after).filter (fun other => key other ≤ key item) = before ++ [item] := by
  obtain ⟨below, above⟩ := lt_of_split_ascending ascending
  rw [List.filter_append, List.filter_eq_self.mpr, List.filter_cons_of_pos (by simp),
    List.filter_eq_nil_iff.mpr]
  · intro other member
    simpa using above other member
  · exact fun other member => decide_eq_true (Std.le_of_lt (below other member))

end Split

/-- The order in which the items come plays no part. -/
theorem sortedOn_eq_of_perm (same : first.Perm second) (distinct : (first.map key).Nodup) :
    sortedOn key first = sortedOn key second := by
  have permuted : (sortedOn key first).Perm (sortedOn key second) :=
    (sortedOn_perm key first).trans (same.trans (sortedOn_perm key second).symm)
  refine permuted.eq_of_pairwise ?_ (sortedOn_pairwise key first) (sortedOn_pairwise key second)
  intro item other member otherMember atMost atLeast
  exact List.inj_on_of_nodup_map distinct ((sortedOn_perm key first).mem_iff.mp member)
    (same.mem_iff.mpr ((sortedOn_perm key second).mem_iff.mp otherMember))
    (String.le_antisymm atMost atLeast)

/-- Every item is in the group of its key and in no other one. -/
theorem groups_perm {keys : List String} (distinct : keys.Nodup)
    (covered : ∀ item ∈ items, key item ∈ keys) :
    (keys.flatMap fun wanted => items.filter fun item => key item == wanted).Perm items := by
  induction keys generalizing items with
  | nil =>
      cases items with
      | nil => exact List.Perm.refl _
      | cons item rest => exact absurd (covered item (List.mem_cons_self ..)) List.not_mem_nil
  | cons wanted rest ih =>
      obtain ⟨fresh, others⟩ := List.nodup_cons.mp distinct
      -- The groups of the other keys are formed from the items that the first group leaves over.
      have remaining : ∀ item ∈ items.filter (fun item => !key item == wanted), key item ∈ rest := by
        intro item member
        obtain ⟨inside, different⟩ := List.mem_filter.mp member
        rcases List.mem_cons.mp (covered item inside) with same | later
        · simp [same] at different
        · exact later
      have groups : (rest.flatMap fun other => items.filter fun item => key item == other) =
          rest.flatMap fun other =>
            (items.filter fun item => !key item == wanted).filter fun item => key item == other := by
        refine List.flatMap_congr fun other member => ?_
        rw [List.filter_filter]
        refine List.filter_congr fun item _ => ?_
        by_cases same : key item = other
        · have different : other ≠ wanted := fun equal => fresh (equal ▸ member)
          simp [same, different]
        · simp [same]
      rw [List.flatMap_cons, groups]
      exact ((ih others remaining).append_left _).trans (List.filter_append_perm _ _)

end SemanticLayer.Order
