import SemanticLayer.Proofs.ModelSet.LinkOrder
import SemanticLayer.Proofs.Order.Sorting
namespace SemanticLayer

/-! Links and foreign keys.

A foreign key is read off the declarations of two models (`SemanticModel.keysTo`). In an accepted
set the links between two models are their foreign keys, each read from the side at which the link
starts (`ModelSet.linksBetween_perm`), and the links that agree in their entity come in the order in
which the foreign entities are declared (`ModelSet.filter_linksBetween`). -/

/-- The entity `foreign` of `model` names `primary`, the primary entity of `owner`. -/
structure ForeignKey where
  model : SemanticModel
  foreign : Entity
  owner : SemanticModel
  primary : Entity

namespace ForeignKey

/-- The key read from the side of the foreign entity. -/
def link (key : ForeignKey) : Link :=
  { source := key.model.name
    fromEntity := key.foreign.name
    fromExpression := key.foreign.expression
    target := key.owner.name
    toEntity := key.primary.name
    toExpression := key.primary.expression
    cardinality := .manyToOne }

/-- The key read from the side of the primary entity. -/
def backLink (key : ForeignKey) : Link :=
  { source := key.owner.name
    fromEntity := key.primary.name
    fromExpression := key.primary.expression
    target := key.model.name
    toEntity := key.foreign.name
    toExpression := key.foreign.expression
    cardinality := .oneToMany }

end ForeignKey

namespace SemanticModel

variable {model owner : SemanticModel} {foreign : Entity} {key : ForeignKey}

/-- The foreign key that an entity of `model` forms with another model, if it names the primary
entity there. -/
def keyTo? (model owner : SemanticModel) (foreign : Entity) : Option ForeignKey :=
  if owner.name = model.name then none
  else
    (owner.primaryEntity?.filter fun primary => primary.name == foreign.name).map fun primary =>
      { model, foreign, owner, primary }

/-- The foreign keys that lead from `model` to `owner`, in order of declaration. -/
def keysTo (model owner : SemanticModel) : List ForeignKey :=
  model.foreignEntities.filterMap (model.keyTo? owner)

/-- The links from `model` to `other`: one for each foreign key in either direction, in order of
declaration. -/
def linksTo (model other : SemanticModel) : List Link :=
  (model.keysTo other).map ForeignKey.link ++ (other.keysTo model).map ForeignKey.backLink

/-- The foreign keys of `model` to all models. -/
def keysFrom (models : List SemanticModel) (model : SemanticModel) : List ForeignKey :=
  models.flatMap model.keysTo

/-- The foreign keys of all models to `model`. -/
def keysOnto (models : List SemanticModel) (model : SemanticModel) : List ForeignKey :=
  models.flatMap fun other => other.keysTo model

/-- Does the entity `foreign` of `model` name the primary entity of another model? -/
def namesAnother (models : List SemanticModel) (model : SemanticModel) (foreign : Entity) : Bool :=
  models.any fun owner => owner.name != model.name && owner.identifies foreign.name

theorem keyTo?_eq_some_iff :
    model.keyTo? owner foreign = some key ↔
      key.model = model ∧ key.owner = owner ∧ key.foreign = foreign ∧ owner.name ≠ model.name ∧
        owner.primaryEntity? = some key.primary ∧ key.primary.name = foreign.name := by
  cases key with
  | mk keyModel keyForeign keyOwner primary =>
      unfold keyTo?
      split
      · rename_i own
        simp [own]
      · rename_i different
        simp only [Option.map_eq_some_iff, Option.filter_eq_some_iff, beq_iff_eq,
          ForeignKey.mk.injEq, ne_eq, different, not_false_eq_true, true_and]
        constructor
        · intro formed
          obtain ⟨_, ⟨identified, named⟩, rfl, rfl, rfl, rfl⟩ := formed
          exact ⟨rfl, rfl, rfl, identified, named⟩
        · intro formed
          obtain ⟨rfl, rfl, rfl, identified, named⟩ := formed
          exact ⟨primary, ⟨identified, named⟩, rfl, rfl, rfl, rfl⟩

theorem isSome_keyTo? (model owner : SemanticModel) (foreign : Entity) :
    (model.keyTo? owner foreign).isSome =
      (owner.name != model.name && owner.identifies foreign.name) := by
  unfold keyTo? identifies
  by_cases own : owner.name = model.name
  · simp [own]
  · rw [if_neg own, bne_iff_ne.mpr own, Bool.true_and]
    cases owner.primaryEntity? with
    | none => rfl
    | some primary => cases same : primary.name == foreign.name <;> simp [Option.filter, same]

theorem mem_keysTo (member : key ∈ model.keysTo owner) :
    key.model = model ∧ key.owner = owner ∧ owner.name ≠ model.name ∧
      key.foreign ∈ model.foreignEntities ∧ owner.primaryEntity? = some key.primary ∧
      key.primary.name = key.foreign.name := by
  obtain ⟨foreign, declared, formed⟩ := List.mem_filterMap.mp member
  obtain ⟨ofModel, ofOwner, rfl, different, identified, named⟩ := keyTo?_eq_some_iff.mp formed
  exact ⟨ofModel, ofOwner, different, declared, identified, named⟩

/-- There is one key for every foreign entity that names the primary entity of `owner`. -/
theorem foreign_keysTo (model owner : SemanticModel) :
    (model.keysTo owner).map ForeignKey.foreign =
      model.foreignEntities.filter fun foreign =>
        owner.name != model.name && owner.identifies foreign.name := by
  unfold keysTo
  rw [List.map_filterMap, ← List.filterMap_eq_filter]
  refine List.filterMap_congr fun foreign _ => ?_
  simp only [Option.guard, ← isSome_keyTo?]
  cases formed : model.keyTo? owner foreign with
  | none => rfl
  | some key => simp [(keyTo?_eq_some_iff.mp formed).2.2.1]

end SemanticModel

namespace ModelSet

variable {models : List SemanticModel} {set : ModelSet} {model other owner : SemanticModel}
  {foreign : Entity} {link : Link}

section Accepted

variable (accepted : ofModels models = .ok set)
include accepted

theorem models_nodup : set.models.Nodup := .of_map _ (names_nodup accepted)

theorem eq_of_identifies {entity : String} (modelMember : model ∈ models)
    (otherMember : other ∈ models) (own : model.identifies entity) (its : other.identifies entity) :
    model = other := by
  by_contra different
  exact (compatible_of_ne accepted modelMember otherMember different).entities entity own its

theorem foreignLink?_eq_some_iff_key :
    set.foreignLink? model foreign = some link ↔
      ∃ owner ∈ models, ∃ key, model.keyTo? owner foreign = some key ∧ key.link = link := by
  rw [foreignLink?_eq_some_iff]
  constructor
  · intro found
    obtain ⟨owner, primary, owned, different, identified, rfl⟩ := found
    obtain ⟨ownerMember, identifies⟩ := (ownerOfEntity?_eq_some_iff accepted).mp owned
    obtain ⟨key, same, named⟩ := SemanticModel.identifies_iff.mp identifies
    rw [identified, Option.some.injEq] at same
    subst same
    exact ⟨owner, ownerMember, ⟨model, foreign, owner, primary⟩,
      SemanticModel.keyTo?_eq_some_iff.mpr ⟨rfl, rfl, rfl, different, identified, named⟩, rfl⟩
  · intro declared
    obtain ⟨owner, ownerMember, key, formed, rfl⟩ := declared
    obtain ⟨rfl, rfl, rfl, different, identified, named⟩ := SemanticModel.keyTo?_eq_some_iff.mp formed
    have identifies := SemanticModel.identifies_iff.mpr ⟨key.primary, identified, named⟩
    exact ⟨key.owner, key.primary, (ownerOfEntity?_eq_some_iff accepted).mpr ⟨ownerMember, identifies⟩,
      different, identified, rfl⟩

theorem isSome_foreignLink? (model : SemanticModel) (foreign : Entity) :
    (set.foreignLink? model foreign).isSome = SemanticModel.namesAnother models model foreign := by
  rw [Bool.eq_iff_iff, Option.isSome_iff_exists]
  simp only [foreignLink?_eq_some_iff, ownerOfEntity?_eq_some_iff accepted,
    SemanticModel.namesAnother, List.any_eq_true, Bool.and_eq_true, bne_iff_ne]
  constructor
  · intro found
    obtain ⟨_, owner, _, ⟨member, identifies⟩, different, _⟩ := found
    exact ⟨owner, member, different, identifies⟩
  · intro names
    obtain ⟨owner, member, different, identifies⟩ := names
    obtain ⟨primary, identified, _⟩ := SemanticModel.identifies_iff.mp identifies
    exact ⟨_, owner, primary, ⟨member, identifies⟩, different, identified, rfl⟩

theorem filter_foreignLink? (ownerMember : owner ∈ models) (model : SemanticModel) (foreign : Entity) :
    ((set.foreignLink? model foreign).filter fun link => link.target == owner.name) =
      (model.keyTo? owner foreign).map ForeignKey.link := by
  refine Option.ext fun link => ?_
  rw [Option.filter_eq_some_iff, Option.map_eq_some_iff, foreignLink?_eq_some_iff_key accepted,
    beq_iff_eq]
  constructor
  · intro found
    obtain ⟨⟨other, otherMember, key, formed, rfl⟩, target⟩ := found
    obtain ⟨_, rfl, _⟩ := SemanticModel.keyTo?_eq_some_iff.mp formed
    rw [eq_of_name_eq accepted otherMember ownerMember target] at formed
    exact ⟨key, formed, rfl⟩
  · intro found
    obtain ⟨key, formed, rfl⟩ := found
    obtain ⟨_, rfl, _⟩ := SemanticModel.keyTo?_eq_some_iff.mp formed
    exact ⟨⟨key.owner, ownerMember, key, formed, rfl⟩, rfl⟩

theorem mem_foreignLinks_iff_key :
    link ∈ set.foreignLinks ↔
      ∃ model ∈ models, ∃ owner ∈ models, ∃ key ∈ model.keysTo owner, key.link = link := by
  simp only [mem_foreignLinks_iff, foreignLink?_eq_some_iff_key accepted, mem_models_iff accepted,
    SemanticModel.keysTo, List.mem_filterMap]
  constructor
  · intro declared
    obtain ⟨model, modelMember, foreign, member, owner, ownerMember, key, formed, same⟩ := declared
    exact ⟨model, modelMember, owner, ownerMember, key, ⟨foreign, member, formed⟩, same⟩
  · intro declared
    obtain ⟨model, modelMember, owner, ownerMember, key, ⟨foreign, member, formed⟩, same⟩ := declared
    exact ⟨model, modelMember, foreign, member, owner, ownerMember, key, formed, same⟩

/-- The links from the foreign keys of one model to the primary key of another. -/
theorem filter_foreignLinks (modelMember : model ∈ models) (ownerMember : owner ∈ models) :
    (set.foreignLinks.filter fun link => link.source == model.name && link.target == owner.name) =
      (model.keysTo owner).map ForeignKey.link := by
  have sourceOf : ∀ (other : SemanticModel) (link : Link),
      link ∈ other.foreignEntities.filterMap (set.foreignLink? other) → link.source = other.name := by
    intro other link member
    obtain ⟨foreign, _, found⟩ := List.mem_filterMap.mp member
    obtain ⟨_, _, _, _, _, rfl⟩ := foreignLink?_eq_some_iff.mp found
    rfl
  unfold foreignLinks
  rw [List.filter_flatMap, Order.flatMap_eq_of_unique (models_nodup accepted)
    ((mem_models_iff accepted).mpr modelMember)]
  · rw [SemanticModel.keysTo, List.map_filterMap]
    simp only [← filter_foreignLink? accepted ownerMember]
    rw [← List.filter_filterMap]
    refine List.filter_congr fun link member => ?_
    rw [sourceOf model link member, beq_self_eq_true, Bool.true_and]
  · intro other member different
    refine List.filter_eq_nil_iff.mpr fun link linkMember passes => different ?_
    rw [Bool.and_eq_true, beq_iff_eq, sourceOf other link linkMember] at passes
    exact eq_of_name_eq accepted ((mem_models_iff accepted).mp member) modelMember passes.1

/-- The same for the links read backwards. -/
theorem filter_flip_foreignLinks (modelMember : model ∈ models) (otherMember : other ∈ models) :
    ((set.foreignLinks.map Link.flip).filter fun link =>
      link.source == model.name && link.target == other.name) =
      (other.keysTo model).map ForeignKey.backLink := by
  have backwards : (other.keysTo model).map ForeignKey.backLink =
      ((other.keysTo model).map ForeignKey.link).map Link.flip := by
    rw [List.map_map]
    rfl
  rw [backwards, ← filter_foreignLinks accepted otherMember modelMember, List.filter_map]
  refine congrArg _ (List.filter_congr fun link _ => ?_)
  exact Bool.and_comm _ _

end Accepted

theorem filter_links_of_forward {test : Link → Bool}
    (fails : ∀ link ∈ set.foreignLinks, ¬ test link.flip) :
    set.links.filter test = set.foreignLinks.filter test := by
  unfold links
  generalize set.foreignLinks = items at fails
  induction items with
  | nil => rfl
  | cons link rest ih =>
      rw [List.flatMap_cons, List.filter_append,
        ih fun other member => fails other (List.mem_cons_of_mem _ member)]
      have backward := fails link (List.mem_cons_self ..)
      cases forward : test link <;> simp [forward, backward]

theorem filter_links_of_backward {test : Link → Bool}
    (fails : ∀ link ∈ set.foreignLinks, ¬ test link) :
    set.links.filter test = (set.foreignLinks.map Link.flip).filter test := by
  unfold links
  generalize set.foreignLinks = items at fails
  induction items with
  | nil => rfl
  | cons link rest ih =>
      rw [List.flatMap_cons, List.filter_append,
        ih fun other member => fails other (List.mem_cons_of_mem _ member)]
      have forward := fails link (List.mem_cons_self ..)
      cases backward : test link.flip <;> simp [forward, backward]

section Accepted

variable (accepted : ofModels models = .ok set)
include accepted

theorem linksBetween_perm (modelMember : model ∈ models) (otherMember : other ∈ models) :
    (set.linksBetween model.name other.name).Perm (model.linksTo other) := by
  have apart : set.links.Perm (set.foreignLinks ++ set.foreignLinks.map Link.flip) := by
    have paired := List.flatMap_append_perm set.foreignLinks (fun link => [link]) fun link => [link.flip]
    rw [List.flatMap_singleton', ← List.map_eq_flatMap] at paired
    exact paired.symm
  unfold linksBetween SemanticModel.linksTo
  rw [← filter_foreignLinks accepted modelMember otherMember,
    ← filter_flip_foreignLinks accepted modelMember otherMember, ← List.filter_append]
  exact apart.filter _

/-- An entity is the primary entity of one model at most, so the links between two models over one
entity run all from foreign to primary keys or all back. -/
theorem filter_linksBetween (modelMember : model ∈ models) (otherMember : other ∈ models)
    (entity : String) :
    ((set.linksBetween model.name other.name).filter fun link => link.fromEntity == entity) =
      (model.linksTo other).filter fun link => link.fromEntity == entity := by
  have forward := filter_foreignLinks accepted modelMember otherMember
  have backward := filter_flip_foreignLinks accepted modelMember otherMember
  unfold linksBetween SemanticModel.linksTo
  rw [List.filter_append, ← forward, ← backward, List.filter_filter, List.filter_filter,
    List.filter_filter]
  by_cases own : model.identifies entity
  -- The entity identifies the model itself, so no foreign key over it leads away from the model.
  · have noForward : ∀ link ∈ set.foreignLinks, ¬ (link.fromEntity == entity &&
        (link.source == model.name && link.target == other.name)) := by
      intro link member passes
      rw [Bool.and_eq_true, beq_iff_eq] at passes
      have chosen : link ∈ (model.keysTo other).map ForeignKey.link :=
        forward ▸ List.mem_filter.mpr ⟨member, passes.2⟩
      obtain ⟨key, keyMember, rfl⟩ := List.mem_map.mp chosen
      obtain ⟨_, _, different, _, declared, named⟩ := SemanticModel.mem_keysTo keyMember
      have its : other.identifies entity :=
        SemanticModel.identifies_iff.mpr ⟨key.primary, declared, named.trans passes.1⟩
      exact different (congrArg SemanticModel.name
        (eq_of_identifies accepted otherMember modelMember its own))
    rw [filter_links_of_backward noForward, List.filter_eq_nil_iff.mpr noForward, List.nil_append]
  · have noBackward : ∀ link ∈ set.foreignLinks.map Link.flip, ¬ (link.fromEntity == entity &&
        (link.source == model.name && link.target == other.name)) := by
      intro link member passes
      rw [Bool.and_eq_true, beq_iff_eq] at passes
      have chosen : link ∈ (other.keysTo model).map ForeignKey.backLink :=
        backward ▸ List.mem_filter.mpr ⟨member, passes.2⟩
      obtain ⟨key, keyMember, rfl⟩ := List.mem_map.mp chosen
      obtain ⟨_, _, _, _, declared, _⟩ := SemanticModel.mem_keysTo keyMember
      exact own (SemanticModel.identifies_iff.mpr ⟨key.primary, declared, passes.1⟩)
    rw [filter_links_of_forward fun link member => noBackward _ (List.mem_map_of_mem member),
      List.filter_eq_nil_iff.mpr noBackward, List.append_nil]

theorem linkCount_eq :
    set.linkCount =
      (models.flatMap fun model =>
        model.foreignEntities.filter (SemanticModel.namesAnother models model)).length := by
  unfold linkCount foreignLinks
  rw [((models_perm accepted).flatMap_right _).length_eq, List.length_flatMap, List.length_flatMap]
  refine congrArg List.sum (List.map_congr_left fun model _ => ?_)
  rw [List.length_filterMap_eq_countP, List.countP_eq_length_filter]
  simp only [isSome_foreignLink? accepted]

theorem linksFrom_perm (member : model ∈ models) :
    (set.linksFrom model.name).Perm
      ((SemanticModel.keysFrom models model).map ForeignKey.link ++
        (SemanticModel.keysOnto models model).map ForeignKey.backLink) := by
  have leaving : (set.linksFrom model.name).Perm
      (set.links.filter fun link => link.source == model.name) :=
    (Order.sorted_perm _ _).trans (List.reverse_perm _)
  have covered : ∀ link ∈ set.links.filter (fun link => link.source == model.name),
      link.target ∈ set.models.map SemanticModel.name :=
    fun link linkMember => target_mem_names (List.mem_filter.mp linkMember).1
  have grouped := Order.groups_perm (names_nodup accepted) covered
  have between : ∀ other ∈ set.models,
      ((set.links.filter fun link => link.source == model.name).filter fun link =>
        link.target == other.name).Perm (model.linksTo other) := by
    intro other otherMember
    rw [List.filter_filter]
    simp only [Bool.and_comm (_ == other.name)]
    exact linksBetween_perm accepted member ((mem_models_iff accepted).mp otherMember)
  rw [List.flatMap_map] at grouped
  refine leaving.trans (grouped.symm.trans ((List.Perm.flatMap_left _ between).trans ?_))
  unfold SemanticModel.keysFrom SemanticModel.keysOnto
  rw [List.map_flatMap, List.map_flatMap]
  exact ((models_perm accepted).flatMap_right _).trans (List.flatMap_append_perm _ _ _).symm

/-- An entity that names the primary entity of another model makes one key. -/
theorem foreign_keysFrom_perm (model : SemanticModel) :
    ((SemanticModel.keysFrom models model).map ForeignKey.foreign).Perm
      (model.foreignEntities.filter (SemanticModel.namesAnother models model)) := by
  unfold SemanticModel.keysFrom SemanticModel.namesAnother
  rw [List.map_flatMap]
  simp only [SemanticModel.foreign_keysTo]
  refine Order.flatMap_filter_perm fun foreign _ => ?_
  refine (unambiguous_of_accepted accepted).compatible.imp fun {first second} compatible => ?_
  simp only [Bool.and_eq_true, not_and]
  exact fun own _ => compatible.entities foreign.name own.2

/-- Links to one model over one entity come against the order of declaration. -/
theorem filter_key_linksFrom_eq (modelMember : model ∈ models) (otherMember : other ∈ models)
    (entity : String) :
    ((set.linksFrom model.name).filter fun link =>
      link.target == other.name && link.fromEntity == entity) =
      ((model.linksTo other).filter fun link => link.fromEntity == entity).reverse := by
  rw [filter_key_linksFrom, filter_linksBetween accepted modelMember otherMember]

end Accepted

/-- The links that leave a model are its foreign keys to other models and, read backwards, their
foreign keys to it. Each entity makes one key if it names the primary entity of another model, and
none otherwise; `linkCount` counts those that make one. The links ascend by target and near entity,
and links that agree in both come against the order of declaration. -/
theorem linksFrom_are_foreign_keys (accepted : ofModels models = .ok set) :
    (∀ model ∈ models,
      (set.linksFrom model.name).Perm
        ((SemanticModel.keysFrom models model).map ForeignKey.link ++
          (SemanticModel.keysOnto models model).map ForeignKey.backLink) ∧
      ((SemanticModel.keysFrom models model).map ForeignKey.foreign).Perm
        (model.foreignEntities.filter (SemanticModel.namesAnother models model)) ∧
      (∀ other ∈ models, (other.keysTo model).map ForeignKey.foreign =
        other.foreignEntities.filter fun foreign =>
          model.name != other.name && model.identifies foreign.name) ∧
      (set.linksFrom model.name).Pairwise (fun first second =>
        first.target < second.target ∨
          (first.target = second.target ∧ first.fromEntity ≤ second.fromEntity)) ∧
      ∀ other ∈ models, ∀ entity,
        ((set.linksFrom model.name).filter fun link =>
          link.target == other.name && link.fromEntity == entity) =
          ((model.linksTo other).filter fun link => link.fromEntity == entity).reverse) ∧
    set.linkCount =
      (models.flatMap fun model =>
        model.foreignEntities.filter (SemanticModel.namesAnother models model)).length := by
  refine ⟨fun model member => ⟨linksFrom_perm accepted member, foreign_keysFrom_perm accepted model,
    fun other _ => SemanticModel.foreign_keysTo other model, ?_,
    fun other otherMember => filter_key_linksFrom_eq accepted member otherMember⟩,
    linkCount_eq accepted⟩
  exact (linksFrom_ascending set model.name).imp Link.le_iff.mp

/-- Flights with two keys to airports; countries are reached through airports and carriers alike. -/
def flightModels : List SemanticModel := [
  { name := "flights"
    entities := [⟨"flight", .primary, "id"⟩, ⟨"airport", .foreign, "origin_id"⟩,
      ⟨"airport", .foreign, "destination_id"⟩, ⟨"carrier", .foreign, "carrier_id"⟩,
      ⟨"crew", .foreign, "crew_id"⟩] },
  { name := "carriers"
    entities := [⟨"carrier", .primary, "id"⟩, ⟨"country", .foreign, "home_id"⟩] },
  { name := "airports"
    entities := [⟨"airport", .primary, "id"⟩, ⟨"country", .foreign, "country_id"⟩,
      ⟨"airport", .foreign, "hub_id"⟩] },
  { name := "countries", entities := [⟨"country", .primary, "id"⟩] }]

/-- Five of the seven foreign entities make a key: no model has crews, and the hub of an airport is
an airport itself. Of the two links from flights to airports the one declared later comes first. -/
theorem flights_keys :
    ofModels flightModels = .ok ⟨Order.sortedOn SemanticModel.name flightModels⟩ ∧
      linkCount ⟨Order.sortedOn SemanticModel.name flightModels⟩ = 5 ∧
      ((linksFrom ⟨Order.sortedOn SemanticModel.name flightModels⟩ "flights").filter fun link =>
        link.target == "airports" && link.fromEntity == "airport").map Link.fromExpression =
        ["destination_id", "origin_id"] := by
  have accepted : ofModels flightModels =
      .ok ⟨Order.sortedOn SemanticModel.name flightModels⟩ := by decide +kernel
  obtain ⟨leaving, counted⟩ := linksFrom_are_foreign_keys accepted
  have toAirports := (leaving flightModels[0] (by decide)).2.2.2.2 flightModels[2] (by decide) "airport"
  refine ⟨accepted, ?_, ?_⟩
  · rw [counted]
    decide +kernel
  · exact (congrArg (List.map Link.fromExpression) toAirports).trans (by decide +kernel)

end ModelSet

end SemanticLayer
