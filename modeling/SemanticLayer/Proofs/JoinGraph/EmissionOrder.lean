import SemanticLayer.Order.SortedSet
import SemanticLayer.Proofs.JoinGraph.Neighbourhood
namespace SemanticLayer

/-! The order in which joins are emitted.

Joins ascend by distance and then by name, so the model to which a model is joined, being one hop
nearer, is the base or comes earlier. -/

open SemanticLayer.Order

namespace JoinEntry

/-- By distance, and by name among the models at one distance. -/
def Precedes (first second : JoinEntry) : Prop :=
  first.hopCount < second.hopCount ∨
    (first.hopCount = second.hopCount ∧ first.target < second.target)

theorem le_iff {first second : JoinEntry} :
    first.le second ↔ first.hopCount < second.hopCount ∨
      (first.hopCount = second.hopCount ∧ first.target ≤ second.target) := by
  simp [le]

theorem le_trans {first second third : JoinEntry} (lower : first.le second)
    (upper : second.le third) : first.le third := by
  rw [le_iff] at *
  rcases lower with nearer | ⟨same, before⟩
  · rcases upper with farther | ⟨equal, _⟩
    · exact .inl (Nat.lt_trans nearer farther)
    · exact .inl (equal ▸ nearer)
  · rcases upper with farther | ⟨equal, behind⟩
    · exact .inl (same ▸ farther)
    · exact .inr ⟨same.trans equal, String.le_trans before behind⟩

theorem le_total (first second : JoinEntry) : first.le second ∨ second.le first := by
  rw [le_iff, le_iff]
  rcases Nat.lt_trichotomy first.hopCount second.hopCount with nearer | same | farther
  · exact .inl (.inl nearer)
  · rcases String.le_total first.target second.target with before | behind
    · exact .inl (.inr ⟨same, before⟩)
    · exact .inr (.inr ⟨same.symm, behind⟩)
  · exact .inr (.inl farther)

theorem Precedes.of_le {first second : JoinEntry} (atMost : first.le second)
    (different : first.target ≠ second.target) : first.Precedes second := by
  rcases le_iff.mp atMost with nearer | ⟨same, before⟩
  · exact .inl nearer
  · rcases StrictOrder.connected first.target second.target with below | equal | above
    · exact .inr ⟨same, below⟩
    · exact absurd equal different
    · exact absurd before (String.not_le.mpr above)

theorem Precedes.hopCount_le {first second : JoinEntry} (precedes : first.Precedes second) :
    first.hopCount ≤ second.hopCount := by
  rcases precedes with nearer | ⟨same, _⟩
  · exact Nat.le_of_lt nearer
  · exact Nat.le_of_eq same

end JoinEntry

namespace JoinGraph

variable {set : ModelSet} {base : String} {maxHops : Option Nat} {entry : JoinEntry}

theorem joins_perm (graph : JoinGraph) : graph.joins.Perm graph.entries := sorted_perm _ _

theorem mem_joins {graph : JoinGraph} : entry ∈ graph.joins ↔ entry ∈ graph.entries :=
  graph.joins_perm.mem_iff

/-- A graph neither joins a model twice nor the base. -/
theorem joins_build_nodup (set : ModelSet) (base : String) (maxHops : Option Nat) :
    (base :: (build set base maxHops).joins.map JoinEntry.target).Nodup :=
  (((joins_perm _).map _).cons base).nodup_iff.mpr (build_layered set base maxHops).distinct

theorem joins_build_ascending (set : ModelSet) (base : String) (maxHops : Option Nat) :
    (build set base maxHops).joins.Pairwise JoinEntry.Precedes := by
  have transitive : ∀ a b c : JoinEntry, a.le b → b.le c → a.le c := fun _ _ _ => JoinEntry.le_trans
  have ordered : (build set base maxHops).joins.Pairwise (fun first second => first.le second) :=
    sorted_pairwise transitive JoinEntry.le_total _
  have different := List.pairwise_map.mp (List.nodup_cons.mp (joins_build_nodup set base maxHops)).2
  exact (ordered.and different).imp fun both => JoinEntry.Precedes.of_le both.1 both.2

theorem link_mem_links (member : entry ∈ (build set base maxHops).joins) :
    entry.link ∈ set.links :=
  (ModelSet.mem_linksFrom.mp
    ((build_layered set base maxHops).leaves entry (mem_joins.mp member))).1

/-- The model to which a model is joined is the base or one that is joined before. -/
theorem via_earlier {before after : List JoinEntry}
    (split : (build set base maxHops).joins = before ++ entry :: after) :
    entry.via = base ∨ ∃ earlier ∈ before, earlier.target = entry.via := by
  have layered := build_layered set base maxHops
  have ascending := joins_build_ascending set base maxHops
  rw [split] at ascending
  have member : entry ∈ (build set base maxHops).joins := by simp [split]
  obtain ⟨distance, count, placed⟩ := layered.nearer entry (mem_joins.mp member)
  rcases placed with ⟨_, own⟩ | ⟨previous, previousMember, target, exact⟩
  · exact .inl own
  · rw [← mem_joins, split] at previousMember
    rcases List.mem_append.mp previousMember with earlier | later
    · exact .inr ⟨previous, earlier, target⟩
    · -- From the entry on, no distance is smaller than that of the entry.
      have behind : entry.hopCount ≤ previous.hopCount := by
        rcases List.mem_cons.mp later with same | tail
        · exact Nat.le_of_eq (congrArg JoinEntry.hopCount same.symm)
        · have following := (List.pairwise_append.mp ascending).2.1
          exact ((List.pairwise_cons.mp following).1 previous tail).hopCount_le
      omega

/-- The distances in a graph are those from 1 up to the greatest one. -/
theorem exists_greatest_hopCount (set : ModelSet) (base : String) (maxHops : Option Nat) :
    ∃ greatest, ∀ count, (∃ entry ∈ (build set base maxHops).joins, entry.hopCount = count) ↔
      1 ≤ count ∧ count ≤ greatest := by
  have layered := build_layered set base maxHops
  have positive : ∀ entry ∈ (build set base maxHops).joins, 1 ≤ entry.hopCount := by
    intro entry member
    obtain ⟨distance, count, _⟩ := layered.nearer entry (mem_joins.mp member)
    omega
  cases highest : ((build set base maxHops).joins.map JoinEntry.hopCount).max? with
  | none =>
      have empty : (build set base maxHops).joins = [] := by simpa using highest
      refine ⟨0, fun count => ⟨fun found => ?_, fun bounds => by omega⟩⟩
      simp [empty] at found
  | some greatest =>
      obtain ⟨attained, greatestBound⟩ := List.max?_eq_some_iff.mp highest
      obtain ⟨last, lastMember, rfl⟩ := List.mem_map.mp attained
      refine ⟨last.hopCount, fun count => ⟨fun found => ?_, fun bounds => ?_⟩⟩
      · obtain ⟨entry, member, rfl⟩ := found
        exact ⟨positive entry member, greatestBound _ (List.mem_map_of_mem member)⟩
      · have placed : Places base (build set base maxHops).entries last.hopCount last.target :=
          .inr ⟨last, mem_joins.mp lastMember, rfl, rfl⟩
        obtain ⟨entry, member, exact⟩ :=
          List.mem_map.mp (layered.mem_hopCounts placed bounds.1 bounds.2)
        exact ⟨entry, mem_joins.mpr member, exact⟩

end JoinGraph

end SemanticLayer
