import Mathlib.Data.List.Nodup
import Mathlib.Data.List.Perm.Basic
import SemanticLayer.Order.Sorting
namespace SemanticLayer.Order

/-! Looking up by a test that at most one item passes. -/

theorem find?_eq_some_iff_mem {items : List α} {test : α → Bool} {item : α}
    (unique : ∀ first ∈ items, ∀ second ∈ items, test first → test second → first = second) :
    items.find? test = some item ↔ item ∈ items ∧ test item := by
  constructor
  · intro found
    exact ⟨List.mem_of_find?_eq_some found, List.find?_some found⟩
  · intro passing
    obtain ⟨member, passes⟩ := passing
    cases found : items.find? test with
    | none => exact absurd passes (List.find?_eq_none.mp found item member)
    | some other =>
        have same : other = item :=
          unique other (List.mem_of_find?_eq_some found) item member (List.find?_some found) passes
        rw [same]

theorem find?_key_eq_some_iff {items : List α} {key : α → String} {wanted : String} {item : α}
    (distinct : (items.map key).Nodup) :
    (items.find? fun item => key item == wanted) = some item ↔ item ∈ items ∧ key item = wanted := by
  rw [find?_eq_some_iff_mem, beq_iff_eq]
  intro first firstMember second secondMember firstKey secondKey
  exact List.inj_on_of_nodup_map distinct firstMember secondMember
    ((beq_iff_eq.mp firstKey).trans (beq_iff_eq.mp secondKey).symm)

theorem find?_key_eq_of_perm {first second : List α} {key : α → String} {wanted : String}
    (same : first.Perm second) (distinct : (first.map key).Nodup) :
    (first.find? fun item => key item == wanted) = second.find? fun item => key item == wanted := by
  have otherDistinct := (same.map key).nodup_iff.mp distinct
  refine Option.ext fun item => ?_
  rw [find?_key_eq_some_iff distinct, find?_key_eq_some_iff otherDistinct, same.mem_iff]

theorem lookup_cons [DecidableEq α] (key other : α) (value : β) (entries : List (α × β)) :
    ((key, value) :: entries).lookup other =
      if other = key then some value else entries.lookup other := by
  rw [List.lookup_cons]
  by_cases equal : other = key
  · rw [beq_iff_eq.mpr equal, if_pos equal]
  · rw [beq_eq_false_iff_ne.mpr equal, if_neg equal]

theorem lookup_eq_some_iff_mem [DecidableEq α] {entries : List (α × β)} {key : α} {value : β}
    (distinct : (entries.map Prod.fst).Nodup) :
    entries.lookup key = some value ↔ (key, value) ∈ entries := by
  induction entries with
  | nil => simp
  | cons entry rest ih =>
      obtain ⟨head, other⟩ := entry
      obtain ⟨fresh, others⟩ := List.nodup_cons.mp distinct
      rw [lookup_cons, List.mem_cons, Prod.mk.injEq]
      by_cases same : key = head
      · subst same
        have absent : (key, value) ∉ rest := fun member =>
          fresh (List.mem_map.mpr ⟨(key, value), member, rfl⟩)
        simp [absent, eq_comm]
      · rw [if_neg same, ih others]
        simp [same]

/-- Looked at from the end, the last item that passes is the first. -/
theorem find?_reverse_eq_some_iff {items : List α} {test : α → Bool} {item : α} :
    items.reverse.find? test = some item ↔
      test item ∧ ∃ before after, items = before ++ item :: after ∧ ∀ later ∈ after, ¬ test later := by
  rw [List.find?_eq_some_iff_append]
  refine and_congr_right fun _ => ?_
  constructor
  · intro split
    obtain ⟨after, before, reversed, fails⟩ := split
    refine ⟨before.reverse, after.reverse, ?_, fun later member => ?_⟩
    · rw [← List.reverse_reverse items, reversed]
      simp
    · simpa using fails later (List.mem_reverse.mp member)
  · intro split
    obtain ⟨before, after, rfl, fails⟩ := split
    exact ⟨after.reverse, before.reverse, by simp, fun later member =>
      by simpa using fails later (List.mem_reverse.mp member)⟩

theorem filter_key_eq_singleton {items : List α} {key : α → String} {item : α}
    (distinct : (items.map key).Nodup) (member : item ∈ items) :
    (items.filter fun other => key other == key item) = [item] := by
  induction items with
  | nil => cases member
  | cons head rest ih =>
      obtain ⟨fresh, others⟩ := List.nodup_cons.mp distinct
      rcases List.mem_cons.mp member with same | later
      · subst same
        have none : (rest.filter fun other => key other == key item) = [] := by
          refine List.filter_eq_nil_iff.mpr fun other otherMember equal => fresh ?_
          rw [← beq_iff_eq.mp equal]
          exact List.mem_map_of_mem otherMember
        rw [List.filter_cons, if_pos (beq_self_eq_true _), none]
      · have different : ¬ (key head == key item) = true := by
          intro equal
          rw [beq_iff_eq.mp equal] at fresh
          exact fresh (List.mem_map_of_mem later)
        rw [List.filter_cons, if_neg different, ih others later]

/-- Only one item has something to contribute. -/
theorem flatMap_eq_of_unique {items : List α} {item : α} {f : α → List β} (distinct : items.Nodup)
    (member : item ∈ items) (others : ∀ other ∈ items, other ≠ item → f other = []) :
    items.flatMap f = f item := by
  induction items with
  | nil => cases member
  | cons head rest ih =>
      obtain ⟨fresh, restDistinct⟩ := List.nodup_cons.mp distinct
      rw [List.flatMap_cons]
      rcases List.mem_cons.mp member with same | later
      · subst same
        have none : rest.flatMap f = [] := by
          refine List.flatMap_eq_nil_iff.mpr fun other otherMember => ?_
          exact others other (List.mem_cons_of_mem _ otherMember) fun equal => fresh (equal ▸ otherMember)
        rw [none, List.append_nil]
      · have headEmpty : f head = [] :=
          others head (List.mem_cons_self ..) fun equal => fresh (equal ▸ later)
        rw [headEmpty, List.nil_append]
        exact ih restDistinct later fun other otherMember =>
          others other (List.mem_cons_of_mem _ otherMember)

/-- Where every item passes one of the tests at most, the items that pass some test are those that
pass each of them, taken together. -/
theorem flatMap_filter_perm {tests : List β} {passes : β → α → Bool} {items : List α}
    (exclusive : ∀ item ∈ items, tests.Pairwise fun first second =>
      passes first item → ¬ passes second item) :
    (tests.flatMap fun test => items.filter (passes test)).Perm
      (items.filter fun item => tests.any fun test => passes test item) := by
  induction tests with
  | nil => simp
  | cons test rest ih =>
      have others := ih fun item member => (List.pairwise_cons.mp (exclusive item member)).2
      have chosen : (items.filter fun item => (test :: rest).any fun test => passes test item).filter
          (passes test) = items.filter (passes test) := by
        rw [List.filter_filter]
        refine List.filter_congr fun item _ => ?_
        cases first : passes test item <;> simp [first]
      have remaining : (items.filter fun item => (test :: rest).any fun test => passes test item).filter
          (fun item => !passes test item) =
            items.filter fun item => rest.any fun test => passes test item := by
        rw [List.filter_filter]
        refine List.filter_congr fun item member => ?_
        cases first : passes test item with
        | false => simp [first]
        | true =>
            have none : (rest.any fun test => passes test item) = false := by
              rw [List.any_eq_false]
              exact fun other otherMember =>
                (List.pairwise_cons.mp (exclusive item member)).1 other otherMember first
            simp [none]
      rw [List.flatMap_cons, ← chosen]
      refine (others.append_left _).trans ?_
      rw [← remaining]
      exact List.filter_append_perm _ _

end SemanticLayer.Order
