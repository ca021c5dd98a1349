import Mathlib.Data.List.Lex
import SemanticLayer.Proofs.JoinGraph.Neighbourhood
import SemanticLayer.Proofs.ModelSet.ForeignKey
import SemanticLayer.Proofs.Text.ByteOrder
namespace SemanticLayer

/-! The path on which a model is joined.

Of all shortest chains of links to a model, the search finds the one whose names come first. The
models found in one round stand in the order of their paths (`Ordered.ascending`), so the first of
them that links to a new model is the one with the least path (`Ordered.next`). -/

namespace ModelSet

/-- A chain of links from `base`, as the names of the models it passes. -/
inductive Route (set : ModelSet) (base : String) : (names : List String) → (last : String) → Prop
  | start : Route set base [base] base
  | extend {names middle link} : Route set base names middle → link ∈ set.linksFrom middle →
      Route set base (names ++ [link.target]) link.target

/-- The chains from `base` to `last` than which none is shorter. -/
def ShortestRoute (set : ModelSet) (base last : String) (names : List String) : Prop :=
  set.Route base names last ∧ ∀ other, set.Route base other last → names.length ≤ other.length

variable {set : ModelSet} {base last : String} {names : List String}

theorem Route.chain (route : set.Route base names last) :
    ∃ hops, names.length = hops + 1 ∧ set.Chain base hops last := by
  induction route with
  | start => exact ⟨0, rfl, .start⟩
  | extend _ leaves ih =>
      obtain ⟨hops, length, chain⟩ := ih
      exact ⟨hops + 1, by simp [length], chain.extend leaves⟩

end ModelSet

namespace JoinGraph

open ModelSet

/-- `names` is met, from the last to the first, when the entries are followed from `model` back to
the base. -/
inductive Traces (base : String) (entries : List JoinEntry) : (names : List String) →
    (model : String) → Prop
  | start : Traces base entries [base] base
  | step {names entry} : entry ∈ entries → Traces base entries names entry.via →
      Traces base entries (names ++ [entry.target]) entry.target

variable {set : ModelSet} {base model : String} {hops distance : Nat} {entries more : List JoinEntry}
  {names other : List String} {entry : JoinEntry}

theorem Traces.append (traces : Traces base entries names model) (more : List JoinEntry) :
    Traces base (entries ++ more) names model := by
  induction traces with
  | start => exact .start
  | step member _ ih => exact .step (List.mem_append_left _ member) ih

theorem Places.mem (places : Places base entries distance model) :
    model ∈ base :: entries.map JoinEntry.target := by
  rcases places with ⟨_, same⟩ | ⟨entry, member, rfl, _⟩
  · exact List.mem_cons.mpr (.inl same)
  · exact List.mem_cons_of_mem _ (List.mem_map_of_mem member)

namespace Layered

theorem exists_traces (layered : Layered set base hops entries)
    (places : Places base entries distance model) :
    ∃ names, Traces base entries names model ∧ names.length = distance + 1 := by
  induction distance generalizing model with
  | zero =>
      rcases places with ⟨_, same⟩ | ⟨entry, member, _, atBase⟩
      · subst same
        exact ⟨[model], .start, rfl⟩
      · obtain ⟨before, count, _⟩ := layered.nearer entry member
        omega
  | succ distance ih =>
      rcases places with ⟨impossible, _⟩ | ⟨entry, member, rfl, count⟩
      · omega
      · obtain ⟨before, exact, placed⟩ := layered.nearer entry member
        have same : before = distance := by omega
        subst same
        obtain ⟨names, traces, length⟩ := ih placed
        exact ⟨names ++ [entry.target], .step member traces, by simp [length]⟩

/-- There is one way back from a model. -/
theorem traces_unique (layered : Layered set base hops entries)
    (traces : Traces base entries names model) (again : Traces base entries other model) :
    names = other := by
  induction traces generalizing other with
  | start =>
      generalize same : base = last at again
      cases again with
      | start => rfl
      | step member _ => exact absurd same.symm (layered.target_ne_base member)
  | @step names entry member _ ih =>
      generalize same : entry.target = last at again
      cases again with
      | start => exact absurd same (layered.target_ne_base member)
      | @step others another anotherMember back =>
          have equal := layered.eq_of_target_eq member anotherMember same
          subst equal
          rw [ih back]

theorem length_of_traces (layered : Layered set base hops entries)
    (places : Places base entries distance model) (traces : Traces base entries names model) :
    names.length = distance + 1 := by
  obtain ⟨only, back, length⟩ := layered.exists_traces places
  rw [layered.traces_unique traces back, length]

theorem route_of_traces (layered : Layered set base hops entries)
    (traces : Traces base entries names model) : set.Route base names model := by
  induction traces with
  | start => exact .start
  | step member _ ih => exact ih.extend (layered.leaves _ member)

/-- The way back from a model of the last round starts at the model to which it is joined. -/
theorem traces_round (layered : Layered set base hops entries)
    (member : entry ∈ round set base hops entries)
    (traces : Traces base (entries ++ round set base hops entries) names entry.target) :
    ∃ before, Traces base entries before entry.via ∧ names = before ++ [entry.target] := by
  obtain ⟨before, back, _⟩ := layered.exists_traces (layered.round_nearer member).2
  refine ⟨before, back, layered.next.traces_unique traces ?_⟩
  exact .step (List.mem_append_right _ member) (back.append _)

end Layered

theorem newLinks_sublist (reached : List String) (links : List Link) :
    (newLinks reached links).Sublist links := by
  induction links generalizing reached with
  | nil => exact .slnil
  | cons head rest ih =>
      unfold newLinks
      split
      · exact (ih reached).cons head
      · exact (ih _).cons_cons head

theorem find?_of_mem_newLinks {reached : List String} {links : List Link} {link : Link}
    (found : link ∈ newLinks reached links) :
    (links.find? fun other => other.target == link.target) = some link := by
  induction links generalizing reached with
  | nil => simp [newLinks] at found
  | cons head rest ih =>
      unfold newLinks at found
      split at found
      · rename_i known
        have different : head.target ≠ link.target := fun same =>
          (mem_of_mem_newLinks found).2 (same ▸ known)
        rw [List.find?_cons_of_neg (by simpa using different)]
        exact ih found
      · rcases List.mem_cons.mp found with same | later
        · rw [same]
          exact List.find?_cons_of_pos (beq_self_eq_true _)
        · have different : head.target ≠ link.target := fun same =>
            (mem_of_mem_newLinks later).2 (same ▸ List.mem_cons_self ..)
          rw [List.find?_cons_of_neg (by simpa using different)]
          exact ih later

/-- The models found in the last round, in the order in which they were found. -/
theorem Layered.frontier_next (layered : Layered set base hops entries) :
    frontier base (hops + 1) (entries ++ round set base hops entries) =
      (newLinks (base :: entries.map JoinEntry.target)
        ((frontier base hops entries).flatMap set.linksFrom)).map Link.target := by
  have older : (entries.filter fun entry => entry.hopCount == hops + 1) = [] := by
    refine List.filter_eq_nil_iff.mpr fun entry member count => ?_
    have bounded := layered.bounded entry member
    rw [beq_iff_eq] at count
    omega
  have newer : ((round set base hops entries).filter fun entry => entry.hopCount == hops + 1) =
      round set base hops entries :=
    List.filter_eq_self.mpr fun entry member => beq_iff_eq.mpr (mem_round_iff.mp member).1
  unfold frontier
  rw [if_neg (Nat.succ_ne_zero hops), List.filter_append, older, newer, List.nil_append]
  simp only [round, List.map_map]
  rfl

/-- What holds of any two links in order holds of the first link to a model and any other one. -/
theorem rel_of_find? {relation : Link → Link → Prop} {links : List Link} {first link : Link}
    (ordered : links.Pairwise relation)
    (found : (links.find? fun other => other.target == link.target) = some first)
    (member : link ∈ links) : first = link ∨ relation first link := by
  obtain ⟨_, before, after, rfl, skipped⟩ := List.find?_eq_some_iff_append.mp found
  rcases List.mem_append.mp member with earlier | later
  · simpa using skipped link earlier
  · rcases List.mem_cons.mp later with same | behind
    · exact .inl same.symm
    · exact .inr ((List.pairwise_cons.mp (List.pairwise_append.mp ordered).2.1).1 link behind)

/-- `first` comes before `second` in a dictionary, or is the same. -/
def NamesAtMost (first second : List String) : Prop :=
  first = second ∨ List.Lex (· < ·) first second

theorem lex_append {first second : List String} (below : List.Lex (· < ·) first second)
    (same : first.length = second.length) (firstRest secondRest : List String) :
    List.Lex (· < ·) (first ++ firstRest) (second ++ secondRest) := by
  induction below with
  | nil => cases same
  | cons _ ih => exact .cons (ih (Nat.succ.inj same))
  | rel below => exact .rel below

theorem lex_trans {first second third : List String} (lower : List.Lex (· < ·) first second)
    (upper : List.Lex (· < ·) second third) : List.Lex (· < ·) first third := by
  have transitive : Trans (· < · : String → String → Prop) (· < ·) (· < ·) := ⟨String.lt_trans⟩
  exact List.lt_trans lower upper

theorem NamesAtMost.trans {first second third : List String} (lower : NamesAtMost first second)
    (upper : NamesAtMost second third) : NamesAtMost first third := by
  rcases lower with rfl | below
  · exact upper
  · rcases upper with rfl | above
    · exact .inr below
    · exact .inr (lex_trans below above)

theorem NamesAtMost.append {first second : List String} (atMost : NamesAtMost first second)
    (same : first.length = second.length) (rest : List String) :
    NamesAtMost (first ++ rest) (second ++ rest) := by
  rcases atMost with rfl | below
  · exact .inl rfl
  · exact .inr (lex_append below same rest rest)

/-- The state of the search after `hops` rounds, as far as it is about names: every path is the
least one of its length, and the models of the last round come in the order of their paths. -/
structure Ordered (set : ModelSet) (base : String) (hops : Nat) (entries : List JoinEntry) :
    Prop where
  least : ∀ names model, Traces base entries names model → ∀ other, set.Route base other model →
    other.length = names.length → NamesAtMost names other
  ascending : (frontier base hops entries).Pairwise fun first second => ∀ names other,
    Traces base entries names first → Traces base entries other second → List.Lex (· < ·) names other

/-- The path over `first` does not come after that over `second`. -/
def PathAtMost (base : String) (entries : List JoinEntry) (first second : Link) : Prop :=
  ∀ names other, Traces base entries names first.source → Traces base entries other second.source →
    NamesAtMost (names ++ [first.target]) (other ++ [second.target])

namespace Ordered

variable {link : Link}

/-- The links are tried in the order of the paths that they would give. -/
theorem candidates_ascending (ordered : Ordered set base hops entries)
    (layered : Layered set base hops entries) :
    ((frontier base hops entries).flatMap set.linksFrom).Pairwise (PathAtMost base entries) := by
  refine List.pairwise_flatMap.mpr ⟨fun middle _ => ?_, ?_⟩
  · refine List.Pairwise.imp_of_mem ?_ (linksFrom_ascending set middle)
    intro first second firstMember secondMember atMost names other back again
    rw [(mem_linksFrom.mp firstMember).2] at back
    rw [(mem_linksFrom.mp secondMember).2] at again
    rw [layered.traces_unique back again]
    rcases Link.le_iff.mp atMost with below | ⟨same, _⟩
    · exact .inr (List.Lex.append_left _ (.rel below) other)
    · exact .inl (by rw [same])
  · refine List.Pairwise.imp_of_mem ?_ ordered.ascending
    intro first second firstMember secondMember below left leftMember right rightMember names other
      back again
    rw [(mem_linksFrom.mp leftMember).2] at back
    rw [(mem_linksFrom.mp rightMember).2] at again
    have same : names.length = other.length :=
      (layered.length_of_traces (layered.mem_frontier.mp firstMember) back).trans
        (layered.length_of_traces (layered.mem_frontier.mp secondMember) again).symm
    exact .inr (lex_append (below names other back again) same _ _)

/-- The first link to a new model completes the least path to it. -/
theorem round_least (ordered : Ordered set base hops entries)
    (layered : Layered set base hops entries) (member : entry ∈ round set base hops entries)
    (back : Traces base entries names entry.via) (route : set.Route base other entry.target)
    (length : other.length = hops + 2) : NamesAtMost (names ++ [entry.target]) other := by
  obtain ⟨candidate, fresh⟩ := mem_of_mem_newLinks (mem_round_iff.mp member).2
  have first := find?_of_mem_newLinks (mem_round_iff.mp member).2
  generalize target : entry.target = last at route
  cases route with
  | start => simp at length
  | @extend before middle link earlier leaves =>
      have beforeLength : before.length = hops + 1 := by simpa using length
      obtain ⟨steps, stepsLength, chain⟩ := earlier.chain
      have same : steps = hops := by omega
      subst same
      obtain ⟨least, atMost, placed⟩ := layered.complete steps middle (Nat.le_refl _) chain
      -- The model before a new one was found in the last round, or the new one would be known.
      have recent : least = steps := by
        by_contra older
        have shortcut := (layered.chain placed).extend leaves
        obtain ⟨nearest, _, known⟩ := layered.complete _ _ (by omega) shortcut
        rw [← target] at known
        exact fresh known.mem
      subst recent
      have tried : link ∈ (frontier base least entries).flatMap set.linksFrom :=
        List.mem_flatMap.mpr ⟨middle, layered.mem_frontier.mpr placed, leaves⟩
      obtain ⟨trace, traced, traceLength⟩ := layered.exists_traces placed
      have shorter := ordered.least trace middle traced before earlier (beforeLength.trans traceLength.symm)
      refine NamesAtMost.trans ?_ (shorter.append (traceLength.trans beforeLength.symm) [link.target])
      have chosen : (((frontier base least entries).flatMap set.linksFrom).find? fun other =>
          other.target == link.target) = some entry.link := target ▸ first
      rcases rel_of_find? (ordered.candidates_ascending layered) chosen tried with same | ahead
      · have via : entry.via = middle :=
          (congrArg Link.source same).trans (mem_linksFrom.mp leaves).2
        rw [via] at back
        exact .inl (by rw [layered.traces_unique back traced])
      · rw [← target]
        rw [← (mem_linksFrom.mp leaves).2] at traced
        have compared := ahead names trace back traced
        rwa [← target] at compared

theorem next_least (ordered : Ordered set base hops entries)
    (layered : Layered set base hops entries)
    (traces : Traces base (entries ++ round set base hops entries) names model)
    (route : set.Route base other model) (length : other.length = names.length) :
    NamesAtMost names other := by
  have old : ∀ distance, Places base entries distance model → NamesAtMost names other := by
    intro distance placed
    obtain ⟨only, back, _⟩ := layered.exists_traces placed
    have same := layered.next.traces_unique traces (back.append _)
    subst same
    exact ordered.least names model back other route length
  cases traces with
  | start => exact old 0 (.inl ⟨rfl, rfl⟩)
  | @step before entry member back =>
      rcases List.mem_append.mp member with earlier | new
      · exact old entry.hopCount (.inr ⟨entry, earlier, rfl, rfl⟩)
      · obtain ⟨trail, traced, same⟩ := layered.traces_round new (.step member back)
        have trailLength := layered.length_of_traces (layered.round_nearer new).2 traced
        rw [same] at length ⊢
        exact ordered.round_least layered new traced route (by simp [length, trailLength])

theorem next_ascending (ordered : Ordered set base hops entries)
    (layered : Layered set base hops entries) :
    (frontier base (hops + 1) (entries ++ round set base hops entries)).Pairwise
      fun first second => ∀ names other,
        Traces base (entries ++ round set base hops entries) names first →
          Traces base (entries ++ round set base hops entries) other second →
            List.Lex (· < ·) names other := by
  rw [layered.frontier_next]
  refine List.pairwise_map.mpr ?_
  have ascending := (ordered.candidates_ascending layered).sublist
    (newLinks_sublist (base :: entries.map JoinEntry.target) _)
  have distinct := List.pairwise_map.mp (newLinks_targets_nodup
    (base :: entries.map JoinEntry.target) ((frontier base hops entries).flatMap set.linksFrom))
  refine List.Pairwise.imp_of_mem ?_ (ascending.and distinct)
  intro first second firstMember secondMember both names other traces again
  have firstEntered : ⟨first, hops + 1⟩ ∈ round set base hops entries :=
    mem_round_iff.mpr ⟨rfl, firstMember⟩
  have secondEntered : ⟨second, hops + 1⟩ ∈ round set base hops entries :=
    mem_round_iff.mpr ⟨rfl, secondMember⟩
  obtain ⟨firstTrail, firstBack, rfl⟩ := layered.traces_round firstEntered traces
  obtain ⟨secondTrail, secondBack, rfl⟩ := layered.traces_round secondEntered again
  rcases both.1 firstTrail secondTrail firstBack secondBack with same | below
  · have ends : first.target = second.target := by simpa using congrArg List.getLast? same
    exact absurd ends both.2
  · exact below

theorem next (ordered : Ordered set base hops entries) (layered : Layered set base hops entries) :
    Ordered set base (hops + 1) (entries ++ round set base hops entries) :=
  ⟨fun _ _ traces _ route length => ordered.next_least layered traces route length,
    ordered.next_ascending layered⟩

end Ordered

theorem within_ordered (set : ModelSet) (base : String) (hops : Nat) :
    Ordered set base hops (within set base hops) := by
  induction hops with
  | zero =>
      refine ⟨?_, List.pairwise_singleton _ _⟩
      intro names model traces other route length
      cases traces with
      | step member _ => cases member
      | start =>
          generalize base = last at route
          cases route with
          | start => exact .inl rfl
          | extend earlier _ =>
              obtain ⟨_, beforeLength, _⟩ := earlier.chain
              simp [beforeLength] at length
  | succ hops ih =>
      rw [within_succ]
      exact ih.next (within_layered set base hops)

/-- A model is joined by the first link that leads to it from the model before it. -/
theorem find?_of_mem_within (member : entry ∈ within set base hops) :
    ((set.linksFrom entry.via).find? fun link => link.target == entry.target) = some entry.link := by
  induction hops with
  | zero => cases member
  | succ hops ih =>
      rw [within_succ] at member
      rcases List.mem_append.mp member with earlier | new
      · exact ih earlier
      · have first := find?_of_mem_newLinks (mem_round_iff.mp new).2
        rw [List.find?_flatMap] at first
        obtain ⟨middle, _, found⟩ := List.exists_of_findSome?_eq_some first
        have via : entry.via = middle :=
          (mem_linksFrom.mp (List.mem_of_find?_eq_some found)).2
        rw [via]
        exact found

variable {models : List SemanticModel} {maxHops : Option Nat}

/-- The names met on the way back from a joined model are those of the least shortest chain. -/
theorem traces_least (member : entry ∈ (build set base maxHops).entries) :
    ∃ names, (∀ other, Traces base (build set base maxHops).entries other entry.target ↔
        other = names) ∧
      set.ShortestRoute base entry.target names ∧
      ∀ other, set.ShortestRoute base entry.target other → NamesAtMost names other := by
  have layered := build_layered set base maxHops
  have placed : Places base (build set base maxHops).entries entry.hopCount entry.target :=
    .inr ⟨entry, member, rfl, rfl⟩
  obtain ⟨names, traces, length⟩ := layered.exists_traces placed
  have shortest : set.ShortestRoute base entry.target names := by
    refine ⟨layered.route_of_traces traces, fun other route => ?_⟩
    obtain ⟨steps, otherLength, chain⟩ := route.chain
    have atLeast := layered.hopCount_le member chain
    omega
  refine ⟨names, fun other => ⟨fun again => layered.traces_unique again traces, ?_⟩, shortest, ?_⟩
  · intro same
    exact same ▸ traces
  · intro other otherShortest
    have same := Nat.le_antisymm (otherShortest.2 names shortest.1) (shortest.2 other otherShortest.1)
    exact (within_ordered set base (rounds set maxHops)).least names entry.target traces other
      otherShortest.1 same

/-- Among the links to a joined model over one entity, the one declared last is taken, and the
entity is the least one. -/
theorem link_least (accepted : ofModels models = .ok set)
    (member : entry ∈ (build set base maxHops).entries) :
    ∃ via ∈ models, ∃ target ∈ models, via.name = entry.via ∧ target.name = entry.target ∧
      (∀ link ∈ set.linksFrom entry.via, link.target = entry.target →
        entry.link.fromEntity ≤ link.fromEntity) ∧
      ((via.linksTo target).filter fun link =>
        link.fromEntity == entry.link.fromEntity).getLast? = some entry.link := by
  have first := find?_of_mem_within member
  have linked := (mem_linksFrom.mp ((build_layered set base maxHops).leaves entry member)).1
  obtain ⟨via, viaMember, viaName, _⟩ := exists_source linked
  obtain ⟨target, targetMember, targetName, _⟩ := exists_target linked
  rw [mem_models_iff accepted] at viaMember targetMember
  refine ⟨via, viaMember, target, targetMember, viaName, targetName, ?_, ?_⟩
  · intro link leaves sameTarget
    rw [← sameTarget] at first
    rcases rel_of_find? (linksFrom_ascending set entry.via) first leaves with same | atMost
    · exact same ▸ String.le_refl _
    · rcases Link.le_iff.mp atMost with before | ⟨_, below⟩
      · exact absurd (sameTarget ▸ before) (String.lt_irrefl _)
      · exact below
  · have latest := filter_key_linksFrom_eq accepted viaMember targetMember entry.link.fromEntity
    rw [← List.head?_reverse, ← latest, List.head?_filter, viaName, targetName]
    obtain ⟨passes, before, after, whole, skipped⟩ := List.find?_eq_some_iff_append.mp first
    refine List.find?_eq_some_iff_append.mpr
      ⟨Bool.and_eq_true_iff.mpr ⟨passes, beq_self_eq_true _⟩, before, after, whole, ?_⟩
    intro link linkMember
    have different := skipped link linkMember
    rw [Bool.not_eq_true'] at different ⊢
    rw [Bool.and_eq_false_iff]
    exact .inl different

/-- Followed back to the base, an entry gives the least of all shortest chains of links to its
model, names being compared byte by byte. Its link is over the least entity that leads there, and
of the foreign keys over that entity the one declared last. -/
theorem joins_follow_least_path (accepted : ofModels models = .ok set) (base : String)
    (maxHops : Option Nat) (found : entry? (build set base maxHops) model = some entry) :
    (∃ names, (∀ other, Traces base (build set base maxHops).entries other model ↔ other = names) ∧
      set.ShortestRoute base model names ∧
      ∀ other, set.ShortestRoute base model other →
        names = other ∨ List.Lex Text.Before names other) ∧
    ∃ via ∈ models, ∃ target ∈ models, via.name = entry.via ∧ target.name = model ∧
      (∀ link ∈ set.linksFrom entry.via, link.target = model →
        ¬ Text.Before link.fromEntity entry.link.fromEntity) ∧
      ((via.linksTo target).filter fun link =>
        link.fromEntity == entry.link.fromEntity).getLast? = some entry.link := by
  obtain ⟨member, rfl⟩ := lookup_build_eq_some_iff.mp found
  obtain ⟨names, traces, shortest, least⟩ := traces_least member
  obtain ⟨via, viaMember, target, targetMember, viaName, targetName, smallest, last⟩ :=
    link_least accepted member
  refine ⟨⟨names, traces, shortest, fun other route => ?_⟩,
    via, viaMember, target, targetMember, viaName, targetName, fun link leaves same => ?_, last⟩
  · refine (least other route).imp_right fun below => ?_
    exact List.Lex.imp (fun _ _ => Text.before_iff.mpr) _ _ below
  · rw [Text.before_iff]
    exact String.not_lt.mpr (smallest link leaves same)

/-- Flights are joined to countries over their airports, not over their carriers. -/
theorem flights_join_countries :
    ∃ set, ofModels flightModels = .ok set ∧
      set.ShortestRoute "flights" "countries" ["flights", "airports", "countries"] ∧
      (∀ other, set.ShortestRoute "flights" "countries" other →
        ["flights", "airports", "countries"] = other ∨
          List.Lex Text.Before ["flights", "airports", "countries"] other) := by
  have accepted : ofModels flightModels =
      .ok ⟨Order.sortedOn SemanticModel.name flightModels⟩ := by decide +kernel
  have found : entry? (build ⟨Order.sortedOn SemanticModel.name flightModels⟩ "flights" none)
      "countries" = some
        ⟨⟨"airports", "country", "country_id", "countries", "country", "id", .manyToOne⟩, 2⟩ := by
    decide +kernel
  obtain ⟨⟨names, traces, shortest, least⟩, _⟩ := joins_follow_least_path accepted "flights" none found
  have airports : ⟨⟨"flights", "airport", "destination_id", "airports", "airport", "id", .manyToOne⟩, 1⟩ ∈
      (build ⟨Order.sortedOn SemanticModel.name flightModels⟩ "flights" none).entries := by
    decide +kernel
  have countries : ⟨⟨"airports", "country", "country_id", "countries", "country", "id", .manyToOne⟩, 2⟩ ∈
      (build ⟨Order.sortedOn SemanticModel.name flightModels⟩ "flights" none).entries := by
    decide +kernel
  have back := Traces.step countries (Traces.step airports .start)
  have same := (traces _).mp back
  subst same
  exact ⟨_, accepted, shortest, least⟩

end JoinGraph

end SemanticLayer
