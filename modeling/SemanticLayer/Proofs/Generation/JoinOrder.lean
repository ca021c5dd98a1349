import SemanticLayer.Proofs.Generation.Outcome
import SemanticLayer.Proofs.JoinGraph.EmissionOrder
import SemanticLayer.Proofs.ModelSet.LinkEnd
namespace SemanticLayer

/-! The joins of an explore in the order in which they are written.

A reader who goes through the joins of an explore from the first to the last meets no condition
about a view that is not there yet. -/

open LookML

variable {project : Project} {options : Options} {output : Output} {explore : Explore}

theorem JoinEntry.precedes_iff_lex {first second : JoinEntry} :
    first.Precedes second ↔
      Prod.Lex (· < ·) (· < ·) (first.hopCount, first.target) (second.hopCount, second.target) := by
  rw [Prod.lex_def]
  rfl

/-- Joins ascend strictly by distance and then by the name of the joined model, and no distance
from 1 up to the greatest one is left out. Each join equates two fields of one name: that of the
joined view with that of the base view or of a view that is joined before. -/
theorem joins_in_usable_order (generated : generate project options = .ok output)
    (exploreMember : explore ∈ output.explores) :
    (∃ keys : List (Nat × String),
      explore.joins.map (fun join => (join.hopCount, join.view)) =
          keys.map (fun key => (key.1, options.naming.view key.2)) ∧
        (∀ key ∈ keys, ∃ target ∈ project.models, target.name = key.2) ∧
        keys.Pairwise (Prod.Lex (· < ·) (· < ·))) ∧
    (∃ greatest, ∀ count, (∃ join ∈ explore.joins, join.hopCount = count) ↔
      1 ≤ count ∧ count ≤ greatest) ∧
    ∀ before join after, explore.joins = before ++ join :: after → ∃ near entity,
      join.condition =
          reference (near ++ "." ++ entity) ++ " = " ++ reference (join.view ++ "." ++ entity) ∧
        (near = explore.baseView ∨ ∃ earlier ∈ before, earlier.view = near) := by
  obtain ⟨set, accepted, diagnostics, rfl⟩ := generate_eq_ok generated
  obtain ⟨base, _, rfl⟩ := List.mem_map.mp exploreMember
  let graph := JoinGraph.build set base.name options.maxJoinHops
  refine ⟨⟨graph.joins.map fun entry => (entry.hopCount, entry.target), ?_, ?_, ?_⟩, ?_, ?_⟩
  · simp only [Generation.explore, LookML.joins, List.map_map]
    rfl
  · intro key member
    obtain ⟨entry, entryMember, rfl⟩ := List.mem_map.mp member
    obtain ⟨target, targetMember, name, _⟩ :=
      ModelSet.exists_target (JoinGraph.link_mem_links entryMember)
    exact ⟨target, (ModelSet.mem_models_iff accepted).mp targetMember, name⟩
  · refine List.pairwise_map.mpr ?_
    exact (JoinGraph.joins_build_ascending set base.name options.maxJoinHops).imp
      JoinEntry.precedes_iff_lex.mp
  · obtain ⟨greatest, counts⟩ :=
      JoinGraph.exists_greatest_hopCount set base.name options.maxJoinHops
    refine ⟨greatest, fun count => ?_⟩
    rw [← counts count]
    simp only [Generation.explore, LookML.joins, List.mem_map, exists_exists_and_eq_and]
    rfl
  · intro before join after split
    obtain ⟨nearer, rest, parts, rfl, tail⟩ := List.map_eq_append_iff.mp split
    obtain ⟨entry, farther, rfl, rfl, rfl⟩ := List.map_eq_cons_iff.mp tail
    have entryMember : entry ∈ graph.joins := by
      rw [parts]
      exact List.mem_append_right _ (List.mem_cons_self ..)
    have same := ModelSet.fromEntity_eq_toEntity (JoinGraph.link_mem_links entryMember)
    refine ⟨options.naming.view entry.via, entry.link.fromEntity, ?_, ?_⟩
    · simp only [Join.ofEntry, JoinEntry.via, JoinEntry.target]
      rw [← same]
    · rcases JoinGraph.via_earlier parts with own | ⟨earlier, member, target⟩
      · exact .inl (congrArg options.naming.view own)
      · exact .inr ⟨_, List.mem_map_of_mem member, congrArg options.naming.view target⟩

/-- Regions are joined to customers, which are joined to orders before. -/
theorem shop_regions_join_customers :
    ∃ output, generate Project.shop {} = .ok output ∧ ∃ explore ∈ output.explores,
      explore.baseView = "orders" ∧ ∃ first second, explore.joins = [first, second] ∧
        first.view = "customers" ∧ second.view = "regions" ∧ ∃ near entity,
          second.condition =
              reference (near ++ "." ++ entity) ++ " = " ++ reference ("regions" ++ "." ++ entity) ∧
            (near = "orders" ∨ near = "customers") := by
  obtain ⟨output, generated, made⟩ := Attempt.exists_ok_of_any (generate Project.shop {})
    (fun output => output.explores.any fun explore => explore.baseView == "orders" &&
      explore.joins.map Join.view == ["customers", "regions"])
    (by decide +kernel)
  simp only [List.any_eq_true, Bool.and_eq_true, beq_iff_eq] at made
  obtain ⟨explore, exploreMember, based, views⟩ := made
  obtain ⟨first, rest, joins, firstView, others⟩ := List.map_eq_cons_iff.mp views
  obtain ⟨second, none, rfl, secondView, ended⟩ := List.map_eq_cons_iff.mp others
  rw [List.map_eq_nil_iff.mp ended] at joins
  obtain ⟨_, _, placed⟩ := joins_in_usable_order generated exploreMember
  obtain ⟨near, entity, condition, there⟩ := placed [first] second [] joins
  rw [secondView] at condition
  refine ⟨output, generated, explore, exploreMember, based, first, second, joins, firstView,
    secondView, near, entity, condition, ?_⟩
  rcases there with own | ⟨earlier, member, view⟩
  · exact .inl (own.trans based)
  · rw [List.mem_singleton.mp member, firstView] at view
    exact .inr view.symm

end SemanticLayer
