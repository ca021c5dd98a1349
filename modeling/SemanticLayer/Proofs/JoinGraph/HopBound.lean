import SemanticLayer.Proofs.JoinGraph.EmissionOrder
import SemanticLayer.Proofs.Order.Insertion
namespace SemanticLayer.JoinGraph

/-! Join graphs of one base under two bounds.

The search goes out round by round, so under a looser bound it makes the same choices first and
then goes on: `joins_build_of_tighter` splits the joins into those within the tighter bound and
those beyond it. -/

open SemanticLayer.Order

variable {set : ModelSet} {base : String} {low high : Option Nat} {entry : JoinEntry}

/-- What `low` allows, `high` allows too; `none` is no bound at all. -/
def Tighter (low high : Option Nat) : Prop := ∀ bound ∈ high, ∃ least ∈ low, least ≤ bound

theorem Tighter.le_bound (tighter : Tighter low high) {hops : Nat}
    (bounded : ∀ bound ∈ low, hops ≤ bound) : ∀ bound ∈ high, hops ≤ bound := by
  intro bound member
  obtain ⟨least, leastMember, below⟩ := tighter bound member
  exact Nat.le_trans (bounded least leastMember) below

theorem Tighter.rounds_le (tighter : Tighter low high) : rounds set low ≤ rounds set high := by
  refine le_rounds (tighter.le_bound (JoinGraph.rounds_le set)) ?_
  cases low with
  | none => exact Nat.le_refl _
  | some bound => exact Nat.min_le_right ..

/-- More rounds keep the entries of the rounds before and add models farther away. -/
theorem within_add (set : ModelSet) (base : String) (hops more : Nat) :
    ∃ farther, within set base (hops + more) = within set base hops ++ farther ∧
      ∀ entry ∈ farther, hops < entry.hopCount ∧ entry.hopCount ≤ hops + more := by
  induction more with
  | zero => exact ⟨[], by simp, by simp⟩
  | succ more ih =>
      obtain ⟨farther, whole, beyond⟩ := ih
      refine ⟨farther ++ round set base (hops + more) (within set base (hops + more)), ?_, ?_⟩
      · rw [← Nat.add_assoc, within_succ, ← List.append_assoc, ← whole]
      · intro entry member
        rcases List.mem_append.mp member with old | new
        · have bounds := beyond entry old
          omega
        · have count := (mem_round_iff.mp new).1
          omega

/-- When the bound stops the search before all models are seen, what it leaves out is beyond it. -/
theorem Tighter.exists_farther (tighter : Tighter low high) (set : ModelSet) (base : String) :
    ∃ farther, (build set base high).entries = (build set base low).entries ++ farther ∧
      ∀ entry ∈ farther, ∃ bound ∈ low, bound < entry.hopCount := by
  obtain ⟨farther, whole, beyond⟩ :=
    within_add set base (rounds set low) (rounds set high - rounds set low)
  rw [Nat.add_sub_cancel' tighter.rounds_le] at whole beyond
  refine ⟨farther, whole, fun entry member => ?_⟩
  obtain ⟨above, atMost⟩ := beyond entry member
  have short : entry.hopCount ≤ set.models.length := by
    refine Nat.le_trans atMost ?_
    cases high with
    | none => exact Nat.le_refl _
    | some bound => exact Nat.min_le_right ..
  cases low with
  | none => exact absurd short (Nat.not_le.mpr above)
  | some bound =>
      refine ⟨bound, rfl, ?_⟩
      simp only [rounds] at above
      omega

theorem hopCount_le_bound (member : entry ∈ (build set base low).joins) :
    ∀ bound ∈ low, entry.hopCount ≤ bound := by
  intro bound same
  have within := (build_layered set base low).bounded entry (mem_joins.mp member)
  exact Nat.le_trans within (rounds_le set bound same)

/-- Under a looser bound the same joins come first, and all others are beyond the tighter bound. -/
theorem joins_build_of_tighter (tighter : Tighter low high) (set : ModelSet) (base : String) :
    ∃ farther, (build set base high).joins = (build set base low).joins ++ farther ∧
      ∀ entry ∈ farther, ∃ bound ∈ low, bound < entry.hopCount := by
  obtain ⟨farther, whole, beyond⟩ := tighter.exists_farther set base
  refine ⟨sorted JoinEntry.le farther, ?_, fun entry member => ?_⟩
  · unfold joins
    rw [whole]
    refine sorted_append fun entry member other otherMember => ?_
    obtain ⟨bound, same, above⟩ := beyond other otherMember
    have within := hopCount_le_bound (mem_joins.mpr member) bound same
    exact JoinEntry.le_iff.mpr (.inl (Nat.lt_of_le_of_lt within above))
  · exact beyond entry ((mem_sorted _ _ _).mp member)

/-- What a tighter bound reaches, a looser one reaches. -/
theorem reaches_build_of_tighter (tighter : Tighter low high) {model : String}
    (reached : (build set base low).reaches model) : (build set base high).reaches model := by
  rw [reaches_build_iff] at reached ⊢
  obtain ⟨hops, bounded, chain⟩ := reached
  exact ⟨hops, tighter.le_bound bounded, chain⟩

end SemanticLayer.JoinGraph
