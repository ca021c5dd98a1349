import SemanticLayer.Proofs.Order.Insertion
import SemanticLayer.Proofs.Order.Lookup
import SemanticLayer.Proofs.Order.Stability
namespace SemanticLayer.Order

/-! Items that share a key.

Sorting by the key, cutting down runs of equal keys and dropping later items of a key all leave
alone what is found first under a key. -/

variable {α : Type u} {key : α → String} {first second items : List α} {wanted : String}

/-- Among the items of one key nothing is moved. -/
theorem filter_key_sortedOn (key : α → String) (wanted : String) (items : List α) :
    (sortedOn key items).filter (fun item => key item == wanted) =
      items.filter fun item => key item == wanted := by
  have transitive : ∀ a b c, decide (key a ≤ key b) → decide (key b ≤ key c) →
      decide (key a ≤ key c) := fun a b c below above =>
    decide_eq_true (String.le_trans (of_decide_eq_true below) (of_decide_eq_true above))
  have total : ∀ a b, decide (key a ≤ key b) = true ∨ decide (key b ≤ key a) = true := fun a b =>
    (String.le_total (key a) (key b)).imp decide_eq_true decide_eq_true
  rw [sortedOn, filter_sorted transitive total]
  apply sorted_eq_self
  apply List.pairwise_of_forall_mem_list
  intro earlier earlierMember later laterMember
  have earlierKey := (List.mem_filter.mp earlierMember).2
  have laterKey := (List.mem_filter.mp laterMember).2
  simp only [beq_iff_eq] at earlierKey laterKey
  simp [earlierKey, laterKey]

theorem find?_sortedOn (key : α → String) (wanted : String) (items : List α) :
    ((sortedOn key items).find? fun item => key item == wanted) =
      items.find? fun item => key item == wanted := by
  rw [← List.head?_filter, filter_key_sortedOn, List.head?_filter]

section Runs

variable {same : α → α → Bool} {head next : α} {rest : List α}

theorem eraseRepsBy_loop (same : α → α → Bool) (head : α) (rest kept : List α) :
    List.eraseRepsBy.loop same head rest kept =
      kept.reverse ++ List.eraseRepsBy.loop same head rest [] := by
  induction rest generalizing head kept with
  | nil => simp [List.eraseRepsBy.loop]
  | cons next rest ih =>
      unfold List.eraseRepsBy.loop
      split
      · exact ih head kept
      · rw [ih next (head :: kept), ih next [head]]
        simp

theorem eraseRepsBy_of_same (equal : same head next) :
    (head :: next :: rest).eraseRepsBy same = (head :: rest).eraseRepsBy same := by
  simp [List.eraseRepsBy, List.eraseRepsBy.loop, equal]

theorem eraseRepsBy_of_different (different : same head next = false) :
    (head :: next :: rest).eraseRepsBy same = head :: (next :: rest).eraseRepsBy same := by
  simp only [List.eraseRepsBy, List.eraseRepsBy.loop, different]
  exact eraseRepsBy_loop same next rest [head]

theorem eraseRepsBy_cons_sublist (same : α → α → Bool) (head : α) (rest : List α) :
    ((head :: rest).eraseRepsBy same).Sublist (head :: rest) := by
  induction rest generalizing head with
  | nil => exact List.Sublist.refl _
  | cons next rest ih =>
      cases equal : same head next with
      | true =>
          rw [eraseRepsBy_of_same equal]
          exact (ih head).trans ((List.sublist_cons_self next rest).cons_cons head)
      | false =>
          rw [eraseRepsBy_of_different equal]
          exact (ih next).cons_cons head

end Runs

theorem find?_eraseRepsBy (key : α → String) (wanted : String) (items : List α) :
    ((items.eraseRepsBy (sameKey key)).find? fun item =>
        key item == wanted) = items.find? fun item => key item == wanted := by
  cases items with
  | nil => rfl
  | cons head rest =>
      induction rest generalizing head with
      | nil => rfl
      | cons next rest ih =>
          cases equal : sameKey key head next with
          | true =>
              rw [eraseRepsBy_of_same equal, ih head]
              rw [sameKey, beq_iff_eq] at equal
              cases found : key next == wanted <;> simp [equal, found]
          | false =>
              rw [eraseRepsBy_of_different equal]
              cases found : key head == wanted with
              | true => simp [found]
              | false => simpa [found] using ih next

/-- In an ascending list equal keys stand together. -/
theorem eraseRepsBy_ascending (ascending : items.Pairwise fun lower upper => key lower ≤ key upper) :
    ((items.eraseRepsBy (sameKey key)).map key).Pairwise (· < ·) := by
  cases items with
  | nil => exact List.Pairwise.nil
  | cons head rest =>
      induction rest generalizing head with
      | nil => simp [List.eraseRepsBy, List.eraseRepsBy.loop]
      | cons next rest ih =>
          obtain ⟨above, others⟩ := List.pairwise_cons.mp ascending
          cases equal : sameKey key head next with
          | true =>
              rw [eraseRepsBy_of_same equal]
              exact ih head (ascending.sublist ((List.sublist_cons_self next rest).cons_cons head))
          | false =>
              rw [eraseRepsBy_of_different equal, List.map_cons, List.pairwise_cons]
              refine ⟨fun upper listed => ?_, ih next others⟩
              obtain ⟨item, member, rfl⟩ := List.mem_map.mp listed
              have different : key head ≠ key next := by simpa [sameKey] using equal
              have below : key head < key next :=
                Std.lt_of_le_of_ne (above next (List.mem_cons_self ..)) different
              rcases List.mem_cons.mp ((eraseRepsBy_cons_sublist _ next rest).subset member) with
                rfl | later
              · exact below
              · exact Std.lt_of_lt_of_le below ((List.pairwise_cons.mp others).1 item later)

/-- Dropping every later item of a key changes nothing that is found first. -/
theorem find?_eraseDupsBy (key : α → String) (wanted : String) (items : List α) :
    ((items.eraseDupsBy (sameKey key)).find? fun item => key item == wanted) =
      items.find? fun item => key item == wanted := by
  match items with
  | [] => rfl
  | head :: rest =>
      rw [List.eraseDupsBy_cons]
      cases found : key head == wanted with
      | true => simp [found]
      | false =>
          simp only [List.find?_cons, found]
          rw [find?_eraseDupsBy key wanted, List.find?_filter]
          congr 1
          funext item
          cases hit : key item == wanted with
          | false => simp
          | true =>
              rw [beq_iff_eq] at hit
              have different : sameKey key item head = false := by
                rw [sameKey, hit, Bool.beq_comm, found]
              simp [different]
termination_by items.length
decreasing_by exact Nat.lt_succ_of_le (List.length_filter_le _ rest)

/-- Two lists in strictly ascending order in which the same is found are the same. -/
theorem eq_of_find?_eq_of_ascending (firstAscending : (first.map key).Pairwise (· < ·))
    (secondAscending : (second.map key).Pairwise (· < ·))
    (same : ∀ wanted, (first.find? fun item => key item == wanted) =
      second.find? fun item => key item == wanted) : first = second := by
  have firstDistinct := keys_nodup_of_ascending firstAscending
  have secondDistinct := keys_nodup_of_ascending secondAscending
  refine eq_of_perm_of_ascending ?_ firstAscending secondAscending
  refine (List.perm_ext_iff_of_nodup firstDistinct.of_map secondDistinct.of_map).mpr fun item => ?_
  have found : item ∈ first ↔ (first.find? fun other => key other == key item) = some item := by
    rw [find?_key_eq_some_iff firstDistinct, and_iff_left rfl]
  rw [found, same, find?_key_eq_some_iff secondDistinct, and_iff_left rfl]

end SemanticLayer.Order
