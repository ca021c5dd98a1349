namespace SemanticLayer.Order

/-! Finite sets as strictly ascending lists.

A set has one representation, so two sets with the same members are equal
(`SortedSet.ext`), and reading the items in order never shows the history of
insertions. -/

/-- A strict order in which any two different elements are comparable. -/
class StrictOrder (α : Type u) [LT α] : Prop where
  irrefl : ∀ a : α, ¬ a < a
  trans : ∀ {a b c : α}, a < b → b < c → a < c
  connected : ∀ a b : α, a < b ∨ a = b ∨ b < a

instance : StrictOrder String where
  irrefl := String.lt_irrefl
  trans := String.lt_trans
  connected a b := by
    rcases Classical.em (a < b) with below | notBelow
    · exact .inl below
    · rcases Classical.em (b < a) with above | notAbove
      · exact .inr (.inr above)
      · exact .inr (.inl (String.le_antisymm (String.not_lt.1 notAbove) (String.not_lt.1 notBelow)))

structure SortedSet (α : Type u) [LT α] where
  items : List α
  ascending : items.Pairwise (· < ·)
deriving DecidableEq, Repr

namespace SortedSet

variable {α : Type u} [LT α]

def empty : SortedSet α := ⟨[], List.Pairwise.nil⟩

instance : Inhabited (SortedSet α) := ⟨empty⟩

instance : Membership α (SortedSet α) := ⟨fun set item => item ∈ set.items⟩

theorem mem_def {set : SortedSet α} {item : α} : item ∈ set ↔ item ∈ set.items := Iff.rfl

variable [DecidableLT α]

/-- Put `item` at its place; an equal item is already there and stays. -/
def place (item : α) : List α → List α
  | [] => [item]
  | head :: rest =>
      if item < head then item :: head :: rest
      else if head < item then head :: place item rest
      else head :: rest

variable [StrictOrder α]

theorem mem_place (item other : α) (items : List α) :
    other ∈ place item items ↔ other = item ∨ other ∈ items := by
  induction items with
  | nil => simp [place]
  | cons head rest ih =>
      unfold place
      split
      · exact List.mem_cons
      · next notBelow =>
          split
          · simp only [List.mem_cons, ih]
            constructor
            · rintro (rfl | rfl | later) <;> simp_all
            · rintro (rfl | rfl | later) <;> simp_all
          · next notAbove =>
              have same : item = head := by
                rcases StrictOrder.connected item head with below | same | above
                · exact absurd below notBelow
                · exact same
                · exact absurd above notAbove
              subst same
              simp

theorem place_ascending (item : α) {items : List α} (ascending : items.Pairwise (· < ·)) :
    (place item items).Pairwise (· < ·) := by
  induction items with
  | nil => simp [place]
  | cons head rest ih =>
      obtain ⟨headBelow, restAscending⟩ := List.pairwise_cons.1 ascending
      unfold place
      split
      · next below =>
          refine List.pairwise_cons.2 ⟨?_, ascending⟩
          intro other member
          rcases List.mem_cons.1 member with rfl | later
          · exact below
          · exact StrictOrder.trans below (headBelow other later)
      · split
        · next above =>
            refine List.pairwise_cons.2 ⟨?_, ih restAscending⟩
            intro other member
            rcases (mem_place item other rest).1 member with rfl | later
            · exact above
            · exact headBelow other later
        · exact ascending

def insert (set : SortedSet α) (item : α) : SortedSet α :=
  ⟨place item set.items, place_ascending item set.ascending⟩

def ofList (items : List α) : SortedSet α := items.foldl insert empty

def union (first second : SortedSet α) : SortedSet α := second.items.foldl insert first

@[simp] theorem mem_insert {set : SortedSet α} {item other : α} :
    other ∈ set.insert item ↔ other = item ∨ other ∈ set :=
  mem_place item other set.items

theorem mem_foldl_insert {set : SortedSet α} {items : List α} {other : α} :
    other ∈ items.foldl insert set ↔ other ∈ set ∨ other ∈ items := by
  induction items generalizing set with
  | nil => simp
  | cons item rest ih =>
      simp only [List.foldl_cons, ih, mem_insert, List.mem_cons]
      constructor
      · rintro ((rfl | member) | later) <;> simp_all
      · rintro (member | rfl | later) <;> simp_all

@[simp] theorem mem_ofList {items : List α} {other : α} : other ∈ ofList items ↔ other ∈ items := by
  refine mem_foldl_insert.trans ?_
  simp [empty, mem_def]

@[simp] theorem mem_union {first second : SortedSet α} {other : α} :
    other ∈ first.union second ↔ other ∈ first ∨ other ∈ second :=
  mem_foldl_insert

omit [DecidableLT α] in
theorem items_eq_of_mem_iff {first second : List α} (firstAscending : first.Pairwise (· < ·))
    (secondAscending : second.Pairwise (· < ·)) (same : ∀ item, item ∈ first ↔ item ∈ second) :
    first = second := by
  induction first generalizing second with
  | nil =>
      cases second with
      | nil => rfl
      | cons head rest => exact absurd ((same head).2 (List.mem_cons_self ..)) List.not_mem_nil
  | cons head rest ih =>
      cases second with
      | nil => exact absurd ((same head).1 (List.mem_cons_self ..)) List.not_mem_nil
      | cons otherHead otherRest =>
          obtain ⟨below, restAscending⟩ := List.pairwise_cons.1 firstAscending
          obtain ⟨otherBelow, otherRestAscending⟩ := List.pairwise_cons.1 secondAscending
          have headsEqual : head = otherHead := by
            rcases List.mem_cons.1 ((same head).1 (List.mem_cons_self ..)) with equal | later
            · exact equal
            · rcases List.mem_cons.1 ((same otherHead).2 (List.mem_cons_self ..)) with equal | otherLater
              · exact equal.symm
              · exact absurd (StrictOrder.trans (otherBelow head later) (below otherHead otherLater))
                  (StrictOrder.irrefl _)
          subst headsEqual
          refine congrArg (head :: ·) (ih restAscending otherRestAscending fun item => ?_)
          constructor
          · intro member
            rcases List.mem_cons.1 ((same item).1 (List.mem_cons_of_mem _ member)) with rfl | later
            · exact absurd (below item member) (StrictOrder.irrefl _)
            · exact later
          · intro member
            rcases List.mem_cons.1 ((same item).2 (List.mem_cons_of_mem _ member)) with rfl | later
            · exact absurd (otherBelow item member) (StrictOrder.irrefl _)
            · exact later

omit [DecidableLT α] in
@[ext] theorem ext {first second : SortedSet α} (same : ∀ item, item ∈ first ↔ item ∈ second) :
    first = second := by
  cases first
  cases second
  congr
  exact items_eq_of_mem_iff ‹_› ‹_› same

end SortedSet

end SemanticLayer.Order
