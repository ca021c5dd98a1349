import SemanticLayer.Order.SortedSet
namespace SemanticLayer.Order.SortedSet

variable {α : Type u} [LT α] [DecidableLT α] [StrictOrder α]

theorem mem_foldl_union {sets : List (SortedSet α)} {first : SortedSet α} {item : α} :
    item ∈ sets.foldl union first ↔ item ∈ first ∨ ∃ set ∈ sets, item ∈ set := by
  induction sets generalizing first with
  | nil => simp
  | cons set rest ih =>
      rw [List.foldl_cons, ih, mem_union, or_assoc]
      simp only [List.mem_cons, exists_eq_or_imp]

omit [DecidableLT α] [StrictOrder α] in
@[simp] theorem not_mem_empty {item : α} : item ∉ (empty : SortedSet α) := List.not_mem_nil

end SemanticLayer.Order.SortedSet
