import SemanticLayer.Order.Sorting
namespace SemanticLayer.Order

/-! Sorting is stable.

A list can be cut down by a test before it is sorted or afterwards (`filter_sorted`). Items that
compare equal form such a part, and there nothing is moved (`sorted_eq_self`). -/

variable {α : Type u} {β : Type v} {le : α → α → Bool} {item : α} {items : List α}

theorem orderedInsert_of_le (below : ∀ other ∈ items, le item other) :
    orderedInsert le item items = item :: items := by
  cases items with
  | nil => rfl
  | cons head rest => exact if_pos (below head (List.mem_cons_self ..))

theorem sorted_eq_self (ascending : items.Pairwise (fun first second => le first second)) :
    sorted le items = items := by
  induction items with
  | nil => rfl
  | cons head rest ih =>
      obtain ⟨headBelow, restAscending⟩ := List.pairwise_cons.mp ascending
      rw [sorted, ih restAscending]
      exact orderedInsert_of_le headBelow

theorem filter_orderedInsert_of_pos {test : α → Bool}
    (transitive : ∀ a b c, le a b → le b c → le a c)
    (ascending : items.Pairwise (fun first second => le first second)) (passes : test item) :
    (orderedInsert le item items).filter test = orderedInsert le item (items.filter test) := by
  induction items with
  | nil => simp [orderedInsert, passes]
  | cons head rest ih =>
      obtain ⟨headBelow, restAscending⟩ := List.pairwise_cons.mp ascending
      by_cases below : le item head
      · -- What is left of the list stays above the item, wherever the test cuts it.
        have least : ∀ other ∈ (head :: rest).filter test, le item other := by
          intro other member
          rcases List.mem_cons.mp (List.mem_filter.mp member).1 with same | later
          · exact same ▸ below
          · exact transitive _ _ _ below (headBelow other later)
        rw [orderedInsert, if_pos below, List.filter_cons_of_pos passes, orderedInsert_of_le least]
      · rw [orderedInsert, if_neg below, List.filter_cons, List.filter_cons, ih restAscending]
        split
        · rw [orderedInsert, if_neg below]
        · rfl

theorem filter_orderedInsert_of_neg {test : α → Bool} (fails : ¬ test item) (items : List α) :
    (orderedInsert le item items).filter test = items.filter test := by
  induction items with
  | nil => simp [orderedInsert, fails]
  | cons head rest ih =>
      rw [orderedInsert]
      split
      · exact List.filter_cons_of_neg fails
      · rw [List.filter_cons, List.filter_cons, ih]

theorem filter_sorted (transitive : ∀ a b c, le a b → le b c → le a c)
    (total : ∀ a b, le a b ∨ le b a) (test : α → Bool) (items : List α) :
    (sorted le items).filter test = sorted le (items.filter test) := by
  induction items with
  | nil => rfl
  | cons head rest ih =>
      rw [sorted]
      by_cases passes : test head
      · rw [filter_orderedInsert_of_pos transitive (sorted_pairwise transitive total rest) passes,
          ih, List.filter_cons_of_pos passes, sorted]
      · rw [filter_orderedInsert_of_neg passes, ih, List.filter_cons_of_neg passes]

theorem orderedInsert_map {below : β → β → Bool} {rename : α → β}
    (same : ∀ other ∈ items, below (rename item) (rename other) = le item other) :
    orderedInsert below (rename item) (items.map rename) = (orderedInsert le item items).map rename := by
  induction items with
  | nil => rfl
  | cons head rest ih =>
      rw [List.map_cons, orderedInsert, orderedInsert, same head (List.mem_cons_self ..),
        ih fun other member => same other (List.mem_cons_of_mem _ member)]
      split <;> rfl

/-- Items that are renamed all at once keep their places. -/
theorem sorted_map {below : β → β → Bool} {rename : α → β}
    (same : ∀ first ∈ items, ∀ second ∈ items,
      below (rename first) (rename second) = le first second) :
    sorted below (items.map rename) = (sorted le items).map rename := by
  induction items with
  | nil => rfl
  | cons head rest ih =>
      have restSame := ih fun first firstMember second secondMember =>
        same first (List.mem_cons_of_mem _ firstMember) second (List.mem_cons_of_mem _ secondMember)
      rw [List.map_cons, sorted, sorted, restSame]
      refine orderedInsert_map fun other member => ?_
      exact same head (List.mem_cons_self ..) other
        (List.mem_cons_of_mem _ ((mem_sorted _ _ _).mp member))

end SemanticLayer.Order
