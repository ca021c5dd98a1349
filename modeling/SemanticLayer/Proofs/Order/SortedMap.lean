import SemanticLayer.Order.SortedMap
import SemanticLayer.Proofs.Order.Lookup
namespace SemanticLayer.Order.SortedMap

/-! Maps with ascending keys by what they lead to.

A key leads to one value, maps that lead to the same values are equal, and a change is seen under its
own key only. -/

variable {α : Type u} {β : Type v} [LT α] [StrictOrder α] [DecidableEq α]
  {map first second : SortedMap α β} {key other : α} {value : β} {edit : Option β → β}
  {entries : List (α × β)}

omit [DecidableEq α] in
theorem keys_nodup (map : SortedMap α β) : (map.entries.map Prod.fst).Nodup := by
  refine map.ascending.imp fun below same => ?_
  rw [same] at below
  exact StrictOrder.irrefl _ below

theorem get?_eq_some_iff_mem : map.get? key = some value ↔ (key, value) ∈ map.entries :=
  lookup_eq_some_iff_mem map.keys_nodup

theorem mem_keys_iff : key ∈ map.keys ↔ (map.get? key).isSome := by
  simp [SortedSet.mem_def, keys, Option.isSome_iff_exists, get?_eq_some_iff_mem]

theorem lookup_eq_none_of_lt (below : ∀ entry ∈ entries, key < entry.1) :
    entries.lookup key = none := by
  refine List.lookup_eq_none_iff.mpr fun entry member => bne_iff_ne.mpr fun same => ?_
  exact StrictOrder.irrefl key (same ▸ below entry member)

/-- A map is what its keys lead to. -/
theorem entries_eq_filterMap (map : SortedMap α β) :
    map.entries = map.keys.items.filterMap fun key => (map.get? key).map (Prod.mk key) := by
  have each : ∀ entry ∈ map.entries, (map.get? entry.1).map (Prod.mk entry.1) = some entry := by
    intro entry member
    rw [get?_eq_some_iff_mem.mpr member]
    rfl
  have whole : map.entries.filterMap (fun entry => (map.get? entry.1).map (Prod.mk entry.1)) =
      map.entries.filterMap some := List.filterMap_congr each
  rw [List.filterMap_some] at whole
  rw [keys, List.filterMap_map]
  exact whole.symm

@[ext] theorem ext (same : ∀ key, first.get? key = second.get? key) : first = second := by
  have keys : first.keys = second.keys := SortedSet.ext fun key => by
    rw [mem_keys_iff, mem_keys_iff, same]
  have entries : first.entries = second.entries := by
    rw [entries_eq_filterMap first, entries_eq_filterMap second, keys]
    simp only [same]
  cases first
  cases second
  congr

variable [DecidableLT α]

theorem lookup_changeAt (key other : α) (edit : Option β → β)
    (ascending : (entries.map Prod.fst).Pairwise (· < ·)) :
    (changeAt key edit entries).lookup other =
      if other = key then some (edit (entries.lookup key)) else entries.lookup other := by
  induction entries with
  | nil => exact lookup_cons key other _ []
  | cons entry rest ih =>
      obtain ⟨head, value⟩ := entry
      obtain ⟨headBelow, restAscending⟩ := List.pairwise_cons.mp ascending
      unfold changeAt
      split
      · next before =>
          have absent : ((head, value) :: rest).lookup key = none := by
            refine lookup_eq_none_of_lt (List.forall_mem_cons.mpr ⟨before, fun entry member => ?_⟩)
            exact StrictOrder.trans before (headBelow _ (List.mem_map_of_mem member))
          rw [lookup_cons, absent]
      · next notBefore =>
          split
          · next behind =>
              have apart : key ≠ head := fun same => StrictOrder.irrefl head (same ▸ behind)
              rw [lookup_cons, lookup_cons, lookup_cons, ih restAscending, if_neg apart]
              by_cases same : other = head
              · rw [if_pos same, if_neg (same ▸ apart.symm), if_pos same]
              · rw [if_neg same, if_neg same]
          · next notBehind =>
              have same : key = head := by
                rcases StrictOrder.connected key head with before | same | behind
                · exact absurd before notBefore
                · exact same
                · exact absurd behind notBehind
              subst same
              rw [lookup_cons, lookup_cons, lookup_cons, if_pos rfl]
              by_cases equal : other = key <;> simp [equal]

@[simp] theorem get?_change :
    (map.change key edit).get? other =
      if other = key then some (edit (map.get? key)) else map.get? other :=
  lookup_changeAt key other edit map.ascending

end SemanticLayer.Order.SortedMap
