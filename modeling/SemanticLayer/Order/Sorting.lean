namespace SemanticLayer.Order

/-! Stable insertion sort.

`sorted` keeps the items it is given, puts them in ascending order, and leaves
items that compare equal in the order in which they came. -/

/-- Put `item` before the first element that it does not exceed. -/
def orderedInsert (le : α → α → Bool) (item : α) : List α → List α
  | [] => [item]
  | head :: rest =>
      if le item head then item :: head :: rest else head :: orderedInsert le item rest

def sorted (le : α → α → Bool) : List α → List α
  | [] => []
  | item :: rest => orderedInsert le item (sorted le rest)

/-- Ascending by a text key; equal keys stay in order. -/
def sortedOn (key : α → String) (items : List α) : List α :=
  sorted (fun first second => decide (key first ≤ key second)) items

/-- Do two items have the same key? -/
def sameKey (key : α → String) (earlier later : α) : Bool := key earlier == key later

theorem orderedInsert_perm (le : α → α → Bool) (item : α) (items : List α) :
    (orderedInsert le item items).Perm (item :: items) := by
  induction items with
  | nil => exact List.Perm.refl _
  | cons head rest ih =>
      unfold orderedInsert
      split
      · exact List.Perm.refl _
      · exact (ih.cons head).trans (List.Perm.swap item head rest)

theorem sorted_perm (le : α → α → Bool) (items : List α) : (sorted le items).Perm items := by
  induction items with
  | nil => exact List.Perm.refl _
  | cons item rest ih => exact (orderedInsert_perm le item _).trans (ih.cons item)

@[simp] theorem mem_sorted (le : α → α → Bool) (items : List α) (item : α) :
    item ∈ sorted le items ↔ item ∈ items :=
  (sorted_perm le items).mem_iff

theorem orderedInsert_pairwise {le : α → α → Bool}
    (transitive : ∀ a b c, le a b → le b c → le a c) (total : ∀ a b, le a b ∨ le b a)
    (item : α) {items : List α} (ascending : items.Pairwise (fun a b => le a b)) :
    (orderedInsert le item items).Pairwise (fun a b => le a b) := by
  induction items with
  | nil => simp [orderedInsert]
  | cons head rest ih =>
      obtain ⟨headLe, restAscending⟩ := List.pairwise_cons.1 ascending
      unfold orderedInsert
      split
      · next below =>
          refine List.pairwise_cons.2 ⟨?_, ascending⟩
          intro other member
          rcases List.mem_cons.1 member with rfl | later
          · exact below
          · exact transitive _ _ _ below (headLe other later)
      · next above =>
          refine List.pairwise_cons.2 ⟨?_, ih restAscending⟩
          intro other member
          rcases List.mem_cons.1 ((orderedInsert_perm le item rest).mem_iff.1 member) with rfl | later
          · exact (total other head).resolve_left above
          · exact headLe other later

theorem sorted_pairwise {le : α → α → Bool}
    (transitive : ∀ a b c, le a b → le b c → le a c) (total : ∀ a b, le a b ∨ le b a)
    (items : List α) : (sorted le items).Pairwise (fun a b => le a b) := by
  induction items with
  | nil => exact List.Pairwise.nil
  | cons item rest ih => exact orderedInsert_pairwise transitive total item ih

theorem sortedOn_pairwise (key : α → String) (items : List α) :
    (sortedOn key items).Pairwise (fun first second => key first ≤ key second) := by
  let le : α → α → Bool := fun first second => decide (key first ≤ key second)
  have transitive : ∀ a b c, le a b → le b c → le a c := fun a b c ab bc =>
    decide_eq_true (String.le_trans (of_decide_eq_true ab) (of_decide_eq_true bc))
  have total : ∀ a b, le a b ∨ le b a := fun a b =>
    (String.le_total (key a) (key b)).imp decide_eq_true decide_eq_true
  exact (sorted_pairwise transitive total items).imp of_decide_eq_true

end SemanticLayer.Order
