import SemanticLayer.JoinGraph
import SemanticLayer.Proofs.ModelSet.Chain
namespace SemanticLayer.JoinGraph

/-! Join graphs and distances.

`Layered` is what holds after every round of the search: the entries give each model they
name its distance from the base, and no model within the rounds made so far is missing.
`Layered.next` carries it over one round, `within_layered` over all of them. -/

variable {set : ModelSet} {base model : String} {hops : Nat} {entries : List JoinEntry}

theorem mem_of_mem_newLinks {reached : List String} {links : List Link} {link : Link}
    (found : link ∈ newLinks reached links) : link ∈ links ∧ link.target ∉ reached := by
  induction links generalizing reached with
  | nil => simp [newLinks] at found
  | cons head rest ih =>
      unfold newLinks at found
      split at found
      · obtain ⟨member, fresh⟩ := ih found
        exact ⟨List.mem_cons_of_mem _ member, fresh⟩
      · rename_i headFresh
        rcases List.mem_cons.mp found with same | later
        · subst same
          exact ⟨List.mem_cons_self .., headFresh⟩
        · obtain ⟨member, fresh⟩ := ih later
          exact ⟨List.mem_cons_of_mem _ member, fun known => fresh (List.mem_cons_of_mem _ known)⟩

theorem newLinks_targets_nodup (reached : List String) (links : List Link) :
    ((newLinks reached links).map Link.target).Nodup := by
  induction links generalizing reached with
  | nil => simp [newLinks]
  | cons head rest ih =>
      unfold newLinks
      split
      · exact ih reached
      · rw [List.map_cons, List.nodup_cons]
        refine ⟨?_, ih _⟩
        intro again
        obtain ⟨link, found, same⟩ := List.mem_map.mp again
        exact (mem_of_mem_newLinks found).2 (by simp [same])

theorem newLinks_covers {reached : List String} {links : List Link} {link : Link}
    (member : link ∈ links) :
    link.target ∈ reached ∨ ∃ found ∈ newLinks reached links, found.target = link.target := by
  induction links generalizing reached with
  | nil => cases member
  | cons head rest ih =>
      unfold newLinks
      split
      · rename_i headKnown
        rcases List.mem_cons.mp member with same | later
        · exact .inl (same ▸ headKnown)
        · exact ih later
      · rcases List.mem_cons.mp member with same | later
        · exact .inr ⟨head, List.mem_cons_self .., by rw [same]⟩
        · have covered : link.target ∈ head.target :: reached ∨
              ∃ found ∈ newLinks (head.target :: reached) rest, found.target = link.target := ih later
          rcases covered with known | ⟨found, foundMember, same⟩
          · rcases List.mem_cons.mp known with same | old
            · exact .inr ⟨head, List.mem_cons_self .., same.symm⟩
            · exact .inl old
          · exact .inr ⟨found, List.mem_cons_of_mem _ foundMember, same⟩

/-- What one round of the search adds to `entries`. -/
def round (set : ModelSet) (base : String) (hops : Nat) (entries : List JoinEntry) :
    List JoinEntry :=
  (newLinks (base :: entries.map JoinEntry.target)
    ((frontier base hops entries).flatMap set.linksFrom)).map fun link => ⟨link, hops + 1⟩

theorem within_succ (set : ModelSet) (base : String) (hops : Nat) :
    within set base (hops + 1) =
      within set base hops ++ round set base hops (within set base hops) := rfl

theorem mem_round_iff {entry : JoinEntry} :
    entry ∈ round set base hops entries ↔
      entry.hopCount = hops + 1 ∧
        entry.link ∈ newLinks (base :: entries.map JoinEntry.target)
          ((frontier base hops entries).flatMap set.linksFrom) := by
  cases entry with
  | mk link hopCount =>
      simp only [round, List.mem_map, JoinEntry.mk.injEq]
      constructor
      · intro added
        obtain ⟨other, new, same, count⟩ := added
        rw [← same]
        exact ⟨count.symm, new⟩
      · intro added
        exact ⟨link, added.2, rfl, added.1.symm⟩

/-- `entries` put `model` at `distance`; the base has the distance 0. -/
def Places (base : String) (entries : List JoinEntry) (distance : Nat) (model : String) : Prop :=
  (distance = 0 ∧ model = base) ∨
    ∃ entry ∈ entries, entry.target = model ∧ entry.hopCount = distance

theorem Places.append {distance : Nat} (places : Places base entries distance model)
    (found : List JoinEntry) : Places base (entries ++ found) distance model := by
  rcases places with own | ⟨entry, member, placed⟩
  · exact .inl own
  · exact .inr ⟨entry, List.mem_append_left _ member, placed⟩

/-- The state of the search after `hops` rounds. -/
structure Layered (set : ModelSet) (base : String) (hops : Nat) (entries : List JoinEntry) :
    Prop where
  distinct : (base :: entries.map JoinEntry.target).Nodup
  bounded : ∀ entry ∈ entries, entry.hopCount ≤ hops
  leaves : ∀ entry ∈ entries, entry.link ∈ set.linksFrom entry.via
  nearer : ∀ entry ∈ entries, ∃ before, entry.hopCount = before + 1 ∧ Places base entries before entry.via
  complete : ∀ distance model, distance ≤ hops → set.Chain base distance model →
    ∃ least ≤ distance, Places base entries least model

namespace Layered

theorem chain (layered : Layered set base hops entries) {distance : Nat}
    (places : Places base entries distance model) : set.Chain base distance model := by
  induction distance generalizing model with
  | zero =>
      rcases places with ⟨_, same⟩ | ⟨entry, member, _, atBase⟩
      · subst same
        exact .start
      · obtain ⟨before, count, _⟩ := layered.nearer entry member
        omega
  | succ distance ih =>
      rcases places with ⟨impossible, _⟩ | ⟨entry, member, target, count⟩
      · omega
      · obtain ⟨before, exact, placed⟩ := layered.nearer entry member
        have same : before = distance := by omega
        subst same
        rw [← target]
        exact (ih placed).extend (layered.leaves entry member)

theorem eq_of_target_eq (layered : Layered set base hops entries) {first second : JoinEntry}
    (firstMember : first ∈ entries) (secondMember : second ∈ entries)
    (same : first.target = second.target) : first = second :=
  List.inj_on_of_nodup_map (List.nodup_cons.mp layered.distinct).2 firstMember secondMember same

theorem target_ne_base (layered : Layered set base hops entries) {entry : JoinEntry}
    (member : entry ∈ entries) : entry.target ≠ base := by
  intro same
  have absent := (List.nodup_cons.mp layered.distinct).1
  rw [← same] at absent
  exact absent (List.mem_map_of_mem member)

theorem eq_hopCount (layered : Layered set base hops entries) {entry : JoinEntry} {distance : Nat}
    (member : entry ∈ entries) (places : Places base entries distance entry.target) :
    distance = entry.hopCount := by
  rcases places with ⟨_, same⟩ | ⟨other, otherMember, same, count⟩
  · exact absurd same (layered.target_ne_base member)
  · rw [← count, layered.eq_of_target_eq otherMember member same]

/-- No chain to the target of an entry is shorter than the entry says. -/
theorem hopCount_le (layered : Layered set base hops entries) {entry : JoinEntry} {distance : Nat}
    (member : entry ∈ entries) (reached : set.Chain base distance entry.target) :
    entry.hopCount ≤ distance := by
  by_cases within : distance ≤ hops
  · obtain ⟨least, bound, placed⟩ := layered.complete distance entry.target within reached
    rw [← layered.eq_hopCount member placed]
    exact bound
  · have bounded := layered.bounded entry member
    omega

theorem mem_frontier (layered : Layered set base hops entries) :
    model ∈ frontier base hops entries ↔ Places base entries hops model := by
  unfold frontier Places
  split
  · rename_i start
    subst start
    simp only [List.mem_singleton, true_and]
    constructor
    · exact .inl
    · intro placed
      rcases placed with same | ⟨entry, member, _, atBase⟩
      · exact same
      · obtain ⟨before, count, _⟩ := layered.nearer entry member
        omega
  · rename_i later
    simp only [List.mem_map, List.mem_filter, beq_iff_eq, later, false_and, false_or]
    constructor
    · intro found
      obtain ⟨entry, ⟨member, count⟩, target⟩ := found
      exact ⟨entry, member, target, count⟩
    · intro found
      obtain ⟨entry, member, target, count⟩ := found
      exact ⟨entry, ⟨member, count⟩, target⟩

theorem round_nearer (layered : Layered set base hops entries) {entry : JoinEntry}
    (member : entry ∈ round set base hops entries) :
    entry.link ∈ set.linksFrom entry.via ∧ Places base entries hops entry.via := by
  obtain ⟨candidate, _⟩ := mem_of_mem_newLinks (mem_round_iff.mp member).2
  obtain ⟨middle, inFrontier, leaves⟩ := List.mem_flatMap.mp candidate
  have via : entry.via = middle := (ModelSet.mem_linksFrom.mp leaves).2
  rw [via]
  exact ⟨leaves, layered.mem_frontier.mp inFrontier⟩

theorem round_distinct (layered : Layered set base hops entries) :
    (base :: (entries ++ round set base hops entries).map JoinEntry.target).Nodup := by
  rw [List.map_append, ← List.cons_append]
  refine List.nodup_append.mpr ⟨layered.distinct, ?_, ?_⟩
  · have targets : (round set base hops entries).map JoinEntry.target =
        (newLinks (base :: entries.map JoinEntry.target)
          ((frontier base hops entries).flatMap set.linksFrom)).map Link.target := by
      simp only [round, List.map_map]
      rfl
    rw [targets]
    exact newLinks_targets_nodup _ _
  · intro known old target new same
    obtain ⟨entry, member, rfl⟩ := List.mem_map.mp new
    rw [same] at old
    exact (mem_of_mem_newLinks (mem_round_iff.mp member).2).2 old

/-- A chain that is one link longer than the rounds made so far ends at a model that has its
place or gets it in the next round. -/
theorem round_complete (layered : Layered set base hops entries) {middle : String} {link : Link}
    (before : set.Chain base hops middle) (leaves : link ∈ set.linksFrom middle) :
    ∃ least ≤ hops + 1, Places base (entries ++ round set base hops entries) least link.target := by
  obtain ⟨least, atMost, placed⟩ := layered.complete hops middle (Nat.le_refl _) before
  by_cases shorter : least < hops
  · -- The middle is nearer than the chain makes it, and so is the end.
    have shortcut := (layered.chain placed).extend leaves
    obtain ⟨nearest, small, final⟩ := layered.complete _ _ shorter shortcut
    exact ⟨nearest, by omega, final.append _⟩
  · have same : least = hops := by omega
    subst same
    have candidate : link ∈ (frontier base least entries).flatMap set.linksFrom :=
      List.mem_flatMap.mpr ⟨middle, layered.mem_frontier.mpr placed, leaves⟩
    rcases newLinks_covers candidate with known | ⟨new, newMember, target⟩
    · rcases List.mem_cons.mp known with atBase | old
      · exact ⟨0, by omega, .inl ⟨rfl, atBase⟩⟩
      · obtain ⟨entry, member, target⟩ := List.mem_map.mp old
        have bounded := layered.bounded entry member
        exact ⟨entry.hopCount, by omega,
          .inr ⟨entry, List.mem_append_left _ member, target, rfl⟩⟩
    · have entered : ⟨new, least + 1⟩ ∈ round set base least entries :=
        mem_round_iff.mpr ⟨rfl, newMember⟩
      exact ⟨least + 1, Nat.le_refl _,
        .inr ⟨⟨new, least + 1⟩, List.mem_append_right _ entered, target, rfl⟩⟩

theorem next (layered : Layered set base hops entries) :
    Layered set base (hops + 1) (entries ++ round set base hops entries) := by
  refine ⟨layered.round_distinct, ?_, ?_, ?_, ?_⟩
  · intro entry member
    rcases List.mem_append.mp member with old | new
    · exact Nat.le_succ_of_le (layered.bounded entry old)
    · exact Nat.le_of_eq (mem_round_iff.mp new).1
  · intro entry member
    rcases List.mem_append.mp member with old | new
    · exact layered.leaves entry old
    · exact (layered.round_nearer new).1
  · intro entry member
    rcases List.mem_append.mp member with old | new
    · obtain ⟨before, count, placed⟩ := layered.nearer entry old
      exact ⟨before, count, placed.append _⟩
    · exact ⟨hops, (mem_round_iff.mp new).1, (layered.round_nearer new).2.append _⟩
  · intro distance model bound reached
    by_cases earlier : distance ≤ hops
    · obtain ⟨least, atMost, placed⟩ := layered.complete distance model earlier reached
      exact ⟨least, atMost, placed.append _⟩
    · have last : distance = hops + 1 := by omega
      subst last
      cases reached with
      | extend before leaves => exact layered.round_complete before leaves

end Layered

theorem within_layered (set : ModelSet) (base : String) (hops : Nat) :
    Layered set base hops (within set base hops) := by
  induction hops with
  | zero =>
      refine ⟨by simp [within], by simp [within], by simp [within], by simp [within], ?_⟩
      intro distance model bound reached
      have start : distance = 0 := by omega
      subst start
      cases reached with
      | start => exact ⟨0, Nat.le_refl _, .inl ⟨rfl, rfl⟩⟩
  | succ hops ih =>
      rw [within_succ]
      exact ih.next

end SemanticLayer.JoinGraph
