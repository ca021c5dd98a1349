import SemanticLayer.Order.SortedSet
namespace SemanticLayer.Order

/-! Finite maps as lists of entries with strictly ascending keys.

As with sets, a map has one representation. -/

structure SortedMap (α : Type u) (β : Type v) [LT α] where
  entries : List (α × β)
  ascending : (entries.map Prod.fst).Pairwise (· < ·)
deriving DecidableEq, Repr

namespace SortedMap

variable {α : Type u} {β : Type v} [LT α]

def empty : SortedMap α β where
  entries := []
  ascending := by simp

instance : Inhabited (SortedMap α β) := ⟨empty⟩

def keys (map : SortedMap α β) : SortedSet α := ⟨map.entries.map Prod.fst, map.ascending⟩

def get? [DecidableEq α] (map : SortedMap α β) (key : α) : Option β := map.entries.lookup key

variable [DecidableLT α]

/-- Put what `edit` makes of the present value, if any, at the place of `key`. -/
def changeAt (key : α) (edit : Option β → β) : List (α × β) → List (α × β)
  | [] => [(key, edit none)]
  | (head, value) :: rest =>
      if key < head then (key, edit none) :: (head, value) :: rest
      else if head < key then (head, value) :: changeAt key edit rest
      else (head, edit (some value)) :: rest

theorem keys_changeAt (key : α) (edit : Option β → β) (entries : List (α × β)) :
    (changeAt key edit entries).map Prod.fst = SortedSet.place key (entries.map Prod.fst) := by
  induction entries with
  | nil => rfl
  | cons entry rest ih =>
      obtain ⟨head, value⟩ := entry
      unfold changeAt
      rw [List.map_cons, SortedSet.place]
      split
      · rfl
      · split
        · rw [List.map_cons, ih]
        · rfl

variable [StrictOrder α]

def change (map : SortedMap α β) (key : α) (edit : Option β → β) : SortedMap α β where
  entries := changeAt key edit map.entries
  ascending := by
    rw [keys_changeAt]
    exact SortedSet.place_ascending key map.ascending

end SortedMap

end SemanticLayer.Order
