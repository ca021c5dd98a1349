import SemanticLayer.Proofs.JoinGraph.LeastPath
namespace SemanticLayer

/-! Joins seen from their two ends.

Every link is there in both directions, so chains can be read backwards (`ModelSet.Chain.reverse`)
and two models are equally far from each other. The links between two models also come in the same
order at both ends (`ModelSet.filter_target_linksFrom_flip`): both ends take the same one. -/

namespace ModelSet

variable {models : List SemanticModel} {set : ModelSet} {model : SemanticModel} {link : Link}
  {first last source target : String} {hops : Nat}

theorem Chain.prepend (leaves : link ∈ set.linksFrom first)
    (chain : set.Chain link.target hops last) : set.Chain first (hops + 1) last := by
  induction chain with
  | start => exact Chain.start.extend leaves
  | extend _ onward ih => exact ih.extend onward

theorem Chain.reverse (chain : set.Chain first hops last) : set.Chain last hops first := by
  induction chain with
  | start => exact .start
  | @extend hops middle link _ leaves ih =>
      obtain ⟨member, source⟩ := mem_linksFrom.mp leaves
      have back : link.flip ∈ set.linksFrom link.target :=
        mem_linksFrom.mpr ⟨flip_mem_links member, rfl⟩
      rw [← source] at ih
      exact .prepend back ih

theorem linksBetween_flip (set : ModelSet) (different : source ≠ target) :
    set.linksBetween target source = (set.linksBetween source target).map Link.flip := by
  have turned : ∀ link : Link, (link.source == target && link.target == source) =
      (link.flip.source == source && link.flip.target == target) := fun link => Bool.and_comm _ _
  unfold linksBetween links
  induction set.foreignLinks with
  | nil => rfl
  | cons link rest ih =>
      rw [List.flatMap_cons, List.filter_append, List.filter_append, List.map_append, ih]
      refine congrArg (· ++ _) ?_
      rw [List.filter_congr fun link _ => turned link]
      cases there : link.source == source && link.target == target <;>
        cases back : link.flip.source == source && link.flip.target == target
      case true.true =>
        -- A link between two models runs one way only.
        rw [Bool.and_eq_true, beq_iff_eq, beq_iff_eq] at there back
        exact absurd (there.1.symm.trans back.2) different
      all_goals simp [there, back]

/-- Both ends list the links between two models in the same order. -/
theorem filter_target_linksFrom_flip (set : ModelSet) (different : source ≠ target) :
    ((set.linksFrom target).filter fun link => link.target == source) =
      ((set.linksFrom source).filter fun link => link.target == target).map Link.flip := by
  rw [filter_target_linksFrom, filter_target_linksFrom, linksBetween_flip set different,
    ← List.map_reverse]
  refine Order.sorted_map fun one oneMember other otherMember => ?_
  rw [List.mem_reverse, mem_linksBetween] at oneMember otherMember
  obtain ⟨oneLink, oneSource, oneTarget⟩ := oneMember
  obtain ⟨otherLink, otherSource, otherTarget⟩ := otherMember
  simp [Link.le, Link.flip, oneSource, otherSource, oneTarget, otherTarget,
    ← fromEntity_eq_toEntity oneLink, ← fromEntity_eq_toEntity otherLink]

section Accepted

variable (accepted : ofModels models = .ok set)
include accepted

/-- A link leads to one row exactly when its target declares the joined entity as its primary
entity. -/
theorem cardinality_eq_manyToOne_iff (member : link ∈ set.links) (modelMember : model ∈ models)
    (named : model.name = link.target) :
    link.cardinality = .manyToOne ↔ model.identifies link.toEntity := by
  obtain ⟨forward, declared, either⟩ := mem_links_iff.mp member
  obtain ⟨_, keyModelMember, _, ownerMember, key, keyMember, rfl⟩ :=
    (mem_foreignLinks_iff_key accepted).mp declared
  obtain ⟨rfl, rfl, different, _, identified, same⟩ := SemanticModel.mem_keysTo keyMember
  have identifies : key.owner.identifies key.primary.name :=
    SemanticModel.identifies_iff.mpr ⟨key.primary, identified, rfl⟩
  obtain rfl | rfl := either
  · have owner := eq_of_name_eq accepted modelMember ownerMember named
    rw [owner]
    exact ⟨fun _ => identifies, fun _ => rfl⟩
  · have keyModel := eq_of_name_eq accepted modelMember keyModelMember named
    rw [keyModel]
    rw [same] at identifies
    have other : ¬ key.model.identifies key.foreign.name := fun own => different
      (congrArg SemanticModel.name
        (eq_of_identifies accepted ownerMember keyModelMember identifies own))
    exact iff_of_false Cardinality.noConfusion other

end Accepted

end ModelSet

namespace JoinGraph

open ModelSet

variable {models : List SemanticModel} {set : ModelSet} {base first second : String}
  {maxHops : Option Nat} {hops : Nat} {entries : List JoinEntry} {entry there back : JoinEntry}

theorem Layered.via_eq_base (layered : Layered set base hops entries) (member : entry ∈ entries)
    (near : entry.hopCount = 1) : entry.via = base := by
  obtain ⟨before, count, ⟨_, own⟩ | ⟨previous, previousMember, _, exact⟩⟩ := layered.nearer entry member
  · exact own
  · obtain ⟨_, earlier, _⟩ := layered.nearer previous previousMember
    omega

/-- A model is found from another one at the distance at which it finds that one. -/
theorem exists_entry_swap (found : entry? (build set first maxHops) second = some there) :
    ∃ back, entry? (build set second maxHops) first = some back ∧
      back.hopCount = there.hopCount := by
  obtain ⟨member, rfl⟩ := lookup_build_eq_some_iff.mp found
  have layered := build_layered set first maxHops
  have apart : first ≠ there.target := (layered.target_ne_base member).symm
  have chain := layered.chain (.inr ⟨there, member, rfl, rfl⟩)
  have bounded : ∀ bound ∈ maxHops, there.hopCount ≤ bound := fun bound same =>
    (layered.bounded there member).trans (rounds_le set bound same)
  obtain ⟨back, lookup⟩ := exists_entry_iff.mpr ⟨apart, there.hopCount, bounded, chain.reverse⟩
  obtain ⟨backMember, rfl⟩ := lookup_build_eq_some_iff.mp lookup
  have backLayered := build_layered set there.target maxHops
  have backChain := backLayered.chain (.inr ⟨back, backMember, rfl, rfl⟩)
  exact ⟨back, lookup, Nat.le_antisymm (backLayered.hopCount_le backMember chain.reverse)
    (layered.hopCount_le member backChain.reverse)⟩

/-- Two neighbours are joined over one link. -/
theorem link_eq_flip (found : entry? (build set first maxHops) second = some there)
    (again : entry? (build set second maxHops) first = some back) (near : there.hopCount = 1) :
    back.link = there.link.flip := by
  obtain ⟨other, same, equal⟩ := exists_entry_swap found
  rw [again, Option.some.injEq] at same
  subst same
  obtain ⟨member, rfl⟩ := lookup_build_eq_some_iff.mp found
  obtain ⟨backMember, rfl⟩ := lookup_build_eq_some_iff.mp again
  have layered := build_layered set back.target maxHops
  have via := layered.via_eq_base member near
  have backVia := (build_layered set there.target maxHops).via_eq_base backMember (equal.trans near)
  have taken := find?_of_mem_within member
  have backTaken := find?_of_mem_within backMember
  have mirrored := filter_target_linksFrom_flip set (layered.target_ne_base member).symm
  rw [← List.head?_filter, via] at taken
  rw [← List.head?_filter, backVia, mirrored, List.head?_map, taken] at backTaken
  exact (Option.some.inj backTaken).symm

variable {firstModel secondModel : SemanticModel}

/-- Two models find each other at the same distance. Neighbours are joined over one link, read from
either side: many-to-one towards the model whose primary entity it names, one-to-many back. -/
theorem joins_are_mirrored (accepted : ofModels models = .ok set)
    (firstMember : firstModel ∈ models) (secondMember : secondModel ∈ models)
    (maxHops : Option Nat) :
    (∀ hops,
      (∃ there, entry? (build set firstModel.name maxHops) secondModel.name = some there ∧
        there.hopCount = hops) ↔
      ∃ back, entry? (build set secondModel.name maxHops) firstModel.name = some back ∧
        back.hopCount = hops) ∧
    ∀ there back, entry? (build set firstModel.name maxHops) secondModel.name = some there →
      entry? (build set secondModel.name maxHops) firstModel.name = some back →
      there.hopCount = 1 →
        back.link = there.link.flip ∧
        ((there.cardinality = .manyToOne ∧ back.cardinality = .oneToMany) ∨
          (there.cardinality = .oneToMany ∧ back.cardinality = .manyToOne)) ∧
        (there.cardinality = .manyToOne ↔ secondModel.identifies there.link.toEntity) ∧
        (back.cardinality = .manyToOne ↔ firstModel.identifies back.link.toEntity) := by
  refine ⟨fun hops => ⟨?_, ?_⟩, fun there back found again near => ?_⟩
  · intro joined
    obtain ⟨there, found, rfl⟩ := joined
    exact exists_entry_swap found
  · intro joined
    obtain ⟨back, found, rfl⟩ := joined
    exact exists_entry_swap found
  · have flipped := link_eq_flip found again near
    have linkMember : ∀ {base model entry}, entry? (build set base maxHops) model = some entry →
        entry.link ∈ set.links ∧ model = entry.link.target := by
      intro base model entry lookup
      obtain ⟨member, same⟩ := lookup_build_eq_some_iff.mp lookup
      exact ⟨(mem_linksFrom.mp ((build_layered set base maxHops).leaves entry member)).1, same.symm⟩
    refine ⟨flipped, ?_,
      cardinality_eq_manyToOne_iff accepted (linkMember found).1 secondMember (linkMember found).2,
      cardinality_eq_manyToOne_iff accepted (linkMember again).1 firstMember (linkMember again).2⟩
    unfold JoinEntry.cardinality
    rw [flipped]
    cases oneWay : there.link.cardinality with
    | manyToOne => exact .inl ⟨rfl, congrArg Cardinality.flip oneWay⟩
    | oneToMany => exact .inr ⟨rfl, congrArg Cardinality.flip oneWay⟩

/-- Both ends take the later of the two keys from flights to airports. -/
theorem flights_and_airports :
    ofModels flightModels = .ok ⟨Order.sortedOn SemanticModel.name flightModels⟩ ∧
      entry? (build ⟨Order.sortedOn SemanticModel.name flightModels⟩ "airports" none) "flights" =
        some ⟨⟨"airports", "airport", "id", "flights", "airport", "destination_id", .oneToMany⟩, 1⟩ ∧
      Link.flip ⟨"flights", "airport", "destination_id", "airports", "airport", "id", .manyToOne⟩ =
        ⟨"airports", "airport", "id", "flights", "airport", "destination_id", .oneToMany⟩ := by
  have accepted : ofModels flightModels =
      .ok ⟨Order.sortedOn SemanticModel.name flightModels⟩ := by decide +kernel
  have flights : flightModels[0] ∈ flightModels := by decide
  have airports : flightModels[2] ∈ flightModels := by decide
  obtain ⟨_, mirrored⟩ := joins_are_mirrored accepted flights airports none
  have found : entry? (build ⟨Order.sortedOn SemanticModel.name flightModels⟩ "flights" none)
      "airports" = some
        ⟨⟨"flights", "airport", "destination_id", "airports", "airport", "id", .manyToOne⟩, 1⟩ := by
    decide +kernel
  have again : entry? (build ⟨Order.sortedOn SemanticModel.name flightModels⟩ "airports" none)
      "flights" = some
        ⟨⟨"airports", "airport", "id", "flights", "airport", "destination_id", .oneToMany⟩, 1⟩ := by
    decide +kernel
  exact ⟨accepted, again, (mirrored _ _ found again rfl).1.symm⟩

end JoinGraph

end SemanticLayer
