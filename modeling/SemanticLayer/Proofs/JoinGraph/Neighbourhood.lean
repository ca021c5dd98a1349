import Mathlib.Order.Bounds.Defs
import SemanticLayer.Proofs.JoinGraph.Distance
namespace SemanticLayer.JoinGraph

/-! What a join graph holds: every model within the bound, by a shortest chain.

The search stops after as many rounds as there are models. That is enough, because every
distance up to that of an entry is the distance of another entry. -/

variable {set : ModelSet} {base model : String} {hops distance : Nat} {entries : List JoinEntry}
  {maxHops : Option Nat}

namespace Layered

/-- No distance is left out on the way to a model. -/
theorem mem_hopCounts (layered : Layered set base hops entries)
    (places : Places base entries distance model) {count : Nat} (positive : 1 ≤ count)
    (bound : count ≤ distance) : count ∈ entries.map JoinEntry.hopCount := by
  induction distance generalizing model with
  | zero => omega
  | succ distance ih =>
      rcases places with ⟨impossible, _⟩ | ⟨entry, member, _, exact⟩
      · omega
      · by_cases last : count = distance + 1
        · rw [last, ← exact]
          exact List.mem_map_of_mem member
        · obtain ⟨before, same, placed⟩ := layered.nearer entry member
          have step : before = distance := by omega
          subst step
          exact ih placed (by omega)

theorem length_le (layered : Layered set base hops entries) :
    entries.length ≤ set.models.length := by
  have named : entries.map JoinEntry.target ⊆ set.models.map SemanticModel.name := by
    intro target member
    obtain ⟨entry, entryMember, rfl⟩ := List.mem_map.mp member
    exact ModelSet.target_mem_names (ModelSet.mem_linksFrom.mp (layered.leaves entry entryMember)).1
  simpa using (List.nodup_cons.mp layered.distinct).2.length_le_of_subset named

theorem distance_le (layered : Layered set base hops entries)
    (places : Places base entries distance model) : distance ≤ set.models.length := by
  have counts : List.range' 1 distance ⊆ entries.map JoinEntry.hopCount := by
    intro count member
    rw [List.mem_range'_1] at member
    exact layered.mem_hopCounts places member.1 (by omega)
  have distinct : (List.range' 1 distance).Nodup := List.nodup_range'
  have short : distance ≤ entries.length := by simpa using distinct.length_le_of_subset counts
  exact Nat.le_trans short layered.length_le

end Layered

/-- A chain can be replaced by one no longer than the number of models. -/
theorem exists_short_chain (chain : set.Chain base distance model) :
    ∃ least ≤ distance, least ≤ set.models.length ∧ set.Chain base least model := by
  have layered := within_layered set base distance
  obtain ⟨least, bound, placed⟩ := layered.complete distance model (Nat.le_refl _) chain
  exact ⟨least, bound, layered.distance_le placed, layered.chain placed⟩

theorem le_rounds (bounded : ∀ bound ∈ maxHops, distance ≤ bound)
    (short : distance ≤ set.models.length) : distance ≤ rounds set maxHops := by
  cases maxHops with
  | none => exact short
  | some bound => exact Nat.le_min.mpr ⟨bounded bound rfl, short⟩

theorem rounds_le (set : ModelSet) : ∀ bound ∈ maxHops, rounds set maxHops ≤ bound := by
  intro bound same
  rw [Option.mem_def.mp same]
  exact Nat.min_le_left ..

theorem build_layered (set : ModelSet) (base : String) (maxHops : Option Nat) :
    Layered set base (rounds set maxHops) (build set base maxHops).entries :=
  within_layered set base (rounds set maxHops)

theorem lookup_build_eq_some_iff {entry : JoinEntry} :
    entry? (build set base maxHops) model = some entry ↔
      entry ∈ (build set base maxHops).entries ∧ entry.target = model :=
  Order.find?_key_eq_some_iff (List.nodup_cons.mp (build_layered set base maxHops).distinct).2

/-- The graph places exactly the models that a chain within the bound leads to. -/
theorem exists_places_iff :
    (∃ distance, Places base (build set base maxHops).entries distance model) ↔
      ∃ hops, (∀ bound ∈ maxHops, hops ≤ bound) ∧ set.Chain base hops model := by
  have layered := build_layered set base maxHops
  constructor
  · intro placed
    obtain ⟨distance, places⟩ := placed
    refine ⟨distance, fun bound same => ?_, layered.chain places⟩
    rcases places with ⟨start, _⟩ | ⟨entry, member, _, count⟩
    · omega
    · have within := layered.bounded entry member
      have limited := rounds_le set bound same
      omega
  · intro reached
    obtain ⟨hops, bounded, chain⟩ := reached
    obtain ⟨least, atMost, short, shortest⟩ := exists_short_chain chain
    have within : least ≤ rounds set maxHops :=
      le_rounds (fun bound same => Nat.le_trans atMost (bounded bound same)) short
    obtain ⟨distance, _, places⟩ := layered.complete least model within shortest
    exact ⟨distance, places⟩

/-- A metric may use the base and every model that a chain within the bound leads to. -/
theorem reaches_build_iff :
    (build set base maxHops).reaches model ↔
      ∃ hops, (∀ bound ∈ maxHops, hops ≤ bound) ∧ set.Chain base hops model := by
  rw [← exists_places_iff]
  simp only [reaches, contains, build, Bool.or_eq_true, beq_iff_eq, List.any_eq_true, Places]
  constructor
  · intro reached
    rcases reached with own | ⟨entry, member, target⟩
    · exact ⟨0, .inl ⟨rfl, own⟩⟩
    · exact ⟨entry.hopCount, .inr ⟨entry, member, target, rfl⟩⟩
  · intro placed
    obtain ⟨distance, ⟨_, own⟩ | ⟨entry, member, target, _⟩⟩ := placed
    · exact .inl own
    · exact .inr ⟨entry, member, target⟩

theorem exists_entry_iff :
    (∃ entry, entry? (build set base maxHops) model = some entry) ↔
      model ≠ base ∧ ∃ hops, (∀ bound ∈ maxHops, hops ≤ bound) ∧ set.Chain base hops model := by
  have layered := build_layered set base maxHops
  rw [← exists_places_iff]
  constructor
  · intro found
    obtain ⟨entry, lookup⟩ := found
    obtain ⟨member, rfl⟩ := lookup_build_eq_some_iff.mp lookup
    exact ⟨layered.target_ne_base member, entry.hopCount, .inr ⟨entry, member, rfl, rfl⟩⟩
  · intro placed
    obtain ⟨joined, distance, ⟨_, own⟩ | ⟨entry, member, target, _⟩⟩ := placed
    · exact absurd own joined
    · exact ⟨entry, lookup_build_eq_some_iff.mpr ⟨member, target⟩⟩

/-- The graph joins exactly the models other than the base that a chain of links within the
bound leads to. Each is entered with the length of a shortest chain and with an existing link
from the base or from a model one hop nearer. -/
theorem build_shortest_chains (set : ModelSet) (base : String) (maxHops : Option Nat)
    (model : String) :
    ((∃ entry, entry? (build set base maxHops) model = some entry) ↔
      model ≠ base ∧ ∃ hops, (∀ bound ∈ maxHops, hops ≤ bound) ∧ set.Chain base hops model) ∧
    ∀ entry, entry? (build set base maxHops) model = some entry →
      IsLeast {hops | set.Chain base hops model} entry.hopCount ∧
      ((entry.via = base ∧ entry.hopCount = 1) ∨
        ∃ previous, entry? (build set base maxHops) entry.via = some previous ∧
          entry.hopCount = previous.hopCount + 1) ∧
      entry.link ∈ set.linksFrom entry.via ∧ entry.link.target = model := by
  have layered := build_layered set base maxHops
  refine ⟨exists_entry_iff, ?_⟩
  intro entry found
  obtain ⟨member, rfl⟩ := lookup_build_eq_some_iff.mp found
  have reached : set.Chain base entry.hopCount entry.target :=
    layered.chain (.inr ⟨entry, member, rfl, rfl⟩)
  refine ⟨⟨reached, fun _ chain => layered.hopCount_le member chain⟩, ?_,
    layered.leaves entry member, rfl⟩
  obtain ⟨before, count, ⟨start, own⟩ | ⟨previous, previousMember, target, exact⟩⟩ :=
    layered.nearer entry member
  · exact .inl ⟨own, by omega⟩
  · exact .inr ⟨previous, lookup_build_eq_some_iff.mpr ⟨previousMember, target⟩, by omega⟩

end SemanticLayer.JoinGraph
