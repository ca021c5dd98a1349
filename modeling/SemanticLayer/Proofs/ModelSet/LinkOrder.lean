import SemanticLayer.Order.SortedSet
import SemanticLayer.Proofs.ModelSet.LinkEnd
import SemanticLayer.Proofs.Order.Stability
namespace SemanticLayer

/-! The order of the links that leave a model.

They ascend by target and by near entity. Sorting them is stable, so the links to one target can
be looked at alone (`filter_target_linksFrom`), and those that also agree in the near entity stand
in the order in which `linksFrom` takes them up (`filter_key_linksFrom`). -/

open SemanticLayer.Order

namespace Link

theorem le_iff {first second : Link} :
    first.le second ↔ first.target < second.target ∨
      (first.target = second.target ∧ first.fromEntity ≤ second.fromEntity) := by
  simp [le]

theorem le_trans (first second third : Link) (lower : first.le second) (upper : second.le third) :
    first.le third := by
  rw [le_iff] at *
  rcases lower with before | ⟨same, below⟩
  · rcases upper with behind | ⟨equal, _⟩
    · exact .inl (String.lt_trans before behind)
    · exact .inl (equal ▸ before)
  · rcases upper with behind | ⟨equal, above⟩
    · exact .inl (same ▸ behind)
    · exact .inr ⟨same.trans equal, String.le_trans below above⟩

theorem le_total (first second : Link) : first.le second ∨ second.le first := by
  rw [le_iff, le_iff]
  rcases StrictOrder.connected first.target second.target with before | same | behind
  · exact .inl (.inl before)
  · rcases String.le_total first.fromEntity second.fromEntity with below | above
    · exact .inl (.inr ⟨same, below⟩)
    · exact .inr (.inr ⟨same.symm, above⟩)
  · exact .inr (.inl behind)

end Link

namespace ModelSet

variable {set : ModelSet} {source target entity : String} {link : Link}

theorem linksFrom_ascending (set : ModelSet) (source : String) :
    (set.linksFrom source).Pairwise (fun first second => first.le second) :=
  sorted_pairwise Link.le_trans Link.le_total _

/-- The links from one model to another, as they come. -/
def linksBetween (set : ModelSet) (source target : String) : List Link :=
  set.links.filter fun link => link.source == source && link.target == target

theorem mem_linksBetween :
    link ∈ set.linksBetween source target ↔
      link ∈ set.links ∧ link.source = source ∧ link.target = target := by
  simp [linksBetween]

theorem filter_linksFrom (set : ModelSet) (source : String) (test : Link → Bool) :
    (set.linksFrom source).filter test =
      sorted Link.le ((set.links.filter fun link => link.source == source).filter test).reverse := by
  unfold linksFrom
  rw [filter_sorted Link.le_trans Link.le_total, List.filter_reverse]

theorem filter_target_linksFrom (set : ModelSet) (source target : String) :
    ((set.linksFrom source).filter fun link => link.target == target) =
      sorted Link.le (set.linksBetween source target).reverse := by
  rw [filter_linksFrom, List.filter_filter]
  unfold linksBetween
  simp only [Bool.and_comm]

/-- Links that agree in target and near entity are not moved by sorting. -/
theorem filter_key_linksFrom (set : ModelSet) (source target entity : String) :
    ((set.linksFrom source).filter fun link => link.target == target && link.fromEntity == entity) =
      ((set.linksBetween source target).filter fun link => link.fromEntity == entity).reverse := by
  have alike : ((set.linksBetween source target).filter fun link =>
      link.fromEntity == entity).reverse.Pairwise (fun first second => first.le second) := by
    refine List.pairwise_iff_forall_sublist.mpr fun {first second} within => ?_
    have firstMember := within.subset (List.mem_cons_self ..)
    have secondMember := within.subset (List.mem_cons_of_mem _ (List.mem_cons_self ..))
    simp only [List.mem_reverse, List.mem_filter, mem_linksBetween, beq_iff_eq] at firstMember secondMember
    obtain ⟨⟨_, _, firstTarget⟩, firstEntity⟩ := firstMember
    obtain ⟨⟨_, _, secondTarget⟩, secondEntity⟩ := secondMember
    exact Link.le_iff.mpr (.inr ⟨firstTarget.trans secondTarget.symm,
      firstEntity.trans secondEntity.symm ▸ String.le_refl _⟩)
  rw [← sorted_eq_self alike, filter_linksFrom, List.filter_filter]
  unfold linksBetween
  rw [List.filter_filter]
  congr 3
  funext link
  ac_rfl

end ModelSet

end SemanticLayer
