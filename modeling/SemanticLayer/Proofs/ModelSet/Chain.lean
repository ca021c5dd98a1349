import SemanticLayer.ModelSet.Link
import SemanticLayer.Proofs.ModelSet.Ownership
namespace SemanticLayer

/-! Chains of links.

A chain is stated twice: over the links of a set (`ModelSet.Chain`), and over the entities
that the models declare (`SemanticModel.Connected`). For an accepted set the two agree
(`ModelSet.chain_iff_connected`). -/

namespace ModelSet

variable {set : ModelSet} {link : Link}

/-- `hops` links, each of which leaves the model where the one before it ends, lead from
`first` to `last`. -/
inductive Chain (set : ModelSet) (first : String) : (hops : Nat) → (last : String) → Prop
  | start : Chain set first 0 first
  | extend {hops middle link} : Chain set first hops middle → link ∈ set.linksFrom middle →
      Chain set first (hops + 1) link.target

@[simp] theorem mem_linksFrom {model : String} :
    link ∈ set.linksFrom model ↔ link ∈ set.links ∧ link.source = model := by
  simp [linksFrom]

theorem mem_links_iff :
    link ∈ set.links ↔ ∃ foreign ∈ set.foreignLinks, link = foreign ∨ link = foreign.flip := by
  simp [links]

theorem foreignLink?_eq_some_iff {model : SemanticModel} {foreign : Entity} :
    set.foreignLink? model foreign = some link ↔
      ∃ owner primary, set.ownerOfEntity? foreign.name = some owner ∧ owner.name ≠ model.name ∧
        owner.primaryEntity? = some primary ∧
        link = { source := model.name
                 fromEntity := foreign.name
                 fromExpression := foreign.expression
                 target := owner.name
                 toEntity := primary.name
                 toExpression := primary.expression
                 cardinality := .manyToOne } := by
  cases owned : set.ownerOfEntity? foreign.name with
  | none => simp [foreignLink?, owned]
  | some owner =>
      by_cases own : owner.name = model.name
      · simp [foreignLink?, owned, own]
      · cases identified : owner.primaryEntity? with
        | none => simp [foreignLink?, owned, own, identified]
        | some primary =>
            simp only [foreignLink?, owned, own, identified, Option.bind_eq_bind, Option.bind_some,
              beq_iff_eq, if_false, Option.pure_def, Option.some.injEq]
            constructor
            · intro found
              exact ⟨owner, primary, rfl, own, identified, found.symm⟩
            · intro found
              obtain ⟨other, key, rfl, _, same, rfl⟩ := found
              rw [identified, Option.some.injEq] at same
              rw [same]

theorem mem_foreignLinks_iff :
    link ∈ set.foreignLinks ↔
      ∃ model ∈ set.models, ∃ foreign ∈ model.foreignEntities,
        set.foreignLink? model foreign = some link := by
  simp [foreignLinks]

theorem target_mem_names (member : link ∈ set.links) :
    link.target ∈ set.models.map SemanticModel.name := by
  obtain ⟨foreign, declared, either⟩ := mem_links_iff.mp member
  obtain ⟨model, modelMember, entity, _, found⟩ := mem_foreignLinks_iff.mp declared
  obtain ⟨owner, primary, owned, _, _, rfl⟩ := foreignLink?_eq_some_iff.mp found
  obtain rfl | rfl := either
  · exact List.mem_map_of_mem (List.mem_of_find?_eq_some owned)
  · exact List.mem_map_of_mem modelMember

end ModelSet

namespace SemanticModel

/-- A foreign entity of `model` names the primary entity of `other`. -/
def RefersTo (model other : SemanticModel) : Prop :=
  other.name ≠ model.name ∧ ∃ foreign ∈ model.foreignEntities, other.identifies foreign.name

/-- Some foreign key joins the two models, in one direction or the other. -/
def Linked (first second : SemanticModel) : Prop := first.RefersTo second ∨ second.RefersTo first

/-- `hops` foreign keys lead from `first` to `last` over models among `models`. -/
inductive Connected (models : List SemanticModel) (first : SemanticModel) :
    (hops : Nat) → (last : SemanticModel) → Prop
  | start : Connected models first 0 first
  | extend {hops middle last} : Connected models first hops middle → last ∈ models →
      middle.Linked last → Connected models first (hops + 1) last

theorem Connected.mem {models : List SemanticModel} {first last : SemanticModel} {hops : Nat}
    (connected : Connected models first hops last) (member : first ∈ models) : last ∈ models := by
  cases connected with
  | start => exact member
  | extend _ lastMember _ => exact lastMember

end SemanticModel

namespace ModelSet

variable {models : List SemanticModel} {set : ModelSet} {first second : SemanticModel}

section Accepted

variable (accepted : ofModels models = .ok set)
include accepted

theorem exists_foreignLink_iff (firstMember : first ∈ models) (secondMember : second ∈ models) :
    (∃ link ∈ set.foreignLinks, link.source = first.name ∧ link.target = second.name) ↔
      first.RefersTo second := by
  constructor
  · intro linked
    obtain ⟨link, declared, source, target⟩ := linked
    obtain ⟨model, modelMember, foreign, foreignMember, found⟩ := mem_foreignLinks_iff.mp declared
    obtain ⟨owner, primary, owned, different, _, rfl⟩ := foreignLink?_eq_some_iff.mp found
    obtain ⟨ownerMember, identifies⟩ := (ownerOfEntity?_eq_some_iff accepted).mp owned
    have sameModel : model = first :=
      eq_of_name_eq accepted ((mem_models_iff accepted).mp modelMember) firstMember source
    have sameOwner : owner = second := eq_of_name_eq accepted ownerMember secondMember target
    subst sameModel sameOwner
    exact ⟨different, foreign, foreignMember, identifies⟩
  · intro refers
    obtain ⟨different, foreign, foreignMember, identifies⟩ := refers
    obtain ⟨primary, identified, _⟩ := SemanticModel.identifies_iff.mp identifies
    have owned := (ownerOfEntity?_eq_some_iff accepted).mpr ⟨secondMember, identifies⟩
    have found := foreignLink?_eq_some_iff.mpr ⟨second, primary, owned, different, identified, rfl⟩
    exact ⟨_, mem_foreignLinks_iff.mpr
      ⟨first, (mem_models_iff accepted).mpr firstMember, foreign, foreignMember, found⟩, rfl, rfl⟩

theorem exists_link_iff (firstMember : first ∈ models) (secondMember : second ∈ models) :
    (∃ link ∈ set.linksFrom first.name, link.target = second.name) ↔ first.Linked second := by
  unfold SemanticModel.Linked
  rw [← exists_foreignLink_iff accepted firstMember secondMember,
    ← exists_foreignLink_iff accepted secondMember firstMember]
  constructor
  · intro linked
    obtain ⟨link, leaves, target⟩ := linked
    obtain ⟨member, source⟩ := mem_linksFrom.mp leaves
    obtain ⟨foreign, declared, rfl | rfl⟩ := mem_links_iff.mp member
    · exact .inl ⟨link, declared, source, target⟩
    · exact .inr ⟨foreign, declared, target, source⟩
  · intro linked
    rcases linked with ⟨foreign, declared, source, target⟩ | ⟨foreign, declared, source, target⟩
    · exact ⟨foreign, mem_linksFrom.mpr ⟨mem_links_iff.mpr ⟨foreign, declared, .inl rfl⟩, source⟩,
        target⟩
    · exact ⟨foreign.flip,
        mem_linksFrom.mpr ⟨mem_links_iff.mpr ⟨foreign, declared, .inr rfl⟩, target⟩, source⟩

theorem connected_of_chain {hops : Nat} {last : String} (member : first ∈ models)
    (chain : set.Chain first.name hops last) :
    ∃ model, SemanticModel.Connected models first hops model ∧ model.name = last := by
  induction chain with
  | start => exact ⟨first, .start, rfl⟩
  | @extend hops middle link _ leaves ih =>
      obtain ⟨model, connected, rfl⟩ := ih
      obtain ⟨target, targetMember, named⟩ :=
        List.mem_map.mp (target_mem_names (mem_linksFrom.mp leaves).1)
      have targetDeclared := (mem_models_iff accepted).mp targetMember
      have linked := (exists_link_iff accepted (connected.mem member) targetDeclared).mp
        ⟨link, leaves, named.symm⟩
      exact ⟨target, connected.extend targetDeclared linked, named⟩

theorem chain_of_connected {hops : Nat} {last : SemanticModel} (member : first ∈ models)
    (connected : SemanticModel.Connected models first hops last) :
    set.Chain first.name hops last.name := by
  induction connected with
  | start => exact .start
  | extend before lastMember linked ih =>
      obtain ⟨link, leaves, named⟩ :=
        (exists_link_iff accepted (before.mem member) lastMember).mpr linked
      rw [← named]
      exact ih.extend leaves

theorem chain_iff_connected {hops : Nat} {last : SemanticModel} (firstMember : first ∈ models)
    (lastMember : last ∈ models) :
    set.Chain first.name hops last.name ↔ SemanticModel.Connected models first hops last := by
  refine ⟨fun chain => ?_, chain_of_connected accepted firstMember⟩
  obtain ⟨model, connected, named⟩ := connected_of_chain accepted firstMember chain
  have same := eq_of_name_eq accepted (connected.mem firstMember) lastMember named
  rwa [← same]

end Accepted

end ModelSet

end SemanticLayer
