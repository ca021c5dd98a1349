import Mathlib.Data.List.Forall2
namespace SemanticLayer.Attempt

/-! Computations that end with a value or with an error. -/

variable {ε : Type u} {α : Type v} {β γ : Type w}

theorem bind_eq_ok_iff {action : Except ε β} {next : β → Except ε γ} {value : γ} :
    action >>= next = .ok value ↔ ∃ middle, action = .ok middle ∧ next middle = .ok value := by
  cases action with
  | error reason => simp [bind, Except.bind]
  | ok middle => simp [bind, Except.bind]

theorem exists_bind_iff {action : Except ε β} {next : β → Except ε γ} {good : γ → Prop} :
    (∃ value, action >>= next = .ok value ∧ good value) ↔
      ∃ middle, action = .ok middle ∧ ∃ value, next middle = .ok value ∧ good value := by
  cases action with
  | error reason => simp [bind, Except.bind]
  | ok middle => simp [bind, Except.bind]

theorem exists_map_iff {action : Except ε β} {change : β → γ} {good : γ → Prop} :
    (∃ value, action.map change = .ok value ∧ good value) ↔
      ∃ value, action = .ok value ∧ good (change value) := by
  cases action <;> simp [Except.map]

theorem toOption_eq_some_iff {action : Except ε β} {value : β} :
    action.toOption = some value ↔ action = .ok value := by
  cases action <;> simp [Except.toOption]

theorem pure_eq_ok_iff {result value : β} : (pure result : Except ε β) = .ok value ↔ value = result :=
  ⟨fun same => (Except.ok.inj same).symm, fun same => congrArg Except.ok same.symm⟩

theorem mapError_eq_ok_iff {δ : Type x} {action : Except ε α} {change : ε → δ} {value : α} :
    action.mapError change = .ok value ↔ action = .ok value := by
  cases action <;> simp [Except.mapError]

/-- A check comes before what follows it. -/
theorem check_bind_eq_ok_iff {check : Except ε PUnit} {next : PUnit → Except ε γ} {value : γ} :
    check >>= next = .ok value ↔ check = .ok ⟨⟩ ∧ next ⟨⟩ = .ok value := by
  rw [bind_eq_ok_iff]
  constructor
  · intro passed
    obtain ⟨_, passes, later⟩ := passed
    exact ⟨passes, later⟩
  · intro passed
    exact ⟨⟨⟩, passed⟩

theorem mapM_eq_ok_iff {action : α → Except ε β} {items : List α} {values : List β} :
    items.mapM action = .ok values ↔
      List.Forall₂ (fun item value => action item = .ok value) items values := by
  induction items generalizing values with
  | nil => simp [pure, Except.pure, eq_comm]
  | cons item rest ih =>
      simp only [List.mapM_cons, bind_eq_ok_iff, ih]
      constructor
      · intro mapped
        obtain ⟨value, first, later, others, whole⟩ := mapped
        cases whole
        exact .cons first others
      · intro related
        cases related with
        | cons first others => exact ⟨_, first, _, others, rfl⟩

theorem mapM_congr {first second : α → Except ε β} {items : List α}
    (same : ∀ item ∈ items, first item = second item) : items.mapM first = items.mapM second := by
  induction items with
  | nil => rfl
  | cons item rest ih =>
      rw [List.mapM_cons, List.mapM_cons, same item (List.mem_cons_self ..),
        ih fun other member => same other (List.mem_cons_of_mem _ member)]

/-- What is done to every value can be done at the end. -/
theorem mapM_map_comp (change : β → γ) (action : α → Except ε β) (items : List α) :
    items.mapM (Except.map change ∘ action) = (items.mapM action).map (List.map change) := by
  induction items with
  | nil => rfl
  | cons item rest ih =>
      rw [List.mapM_cons, List.mapM_cons, ih, Function.comp_apply]
      cases action item with
      | error reason => rfl
      | ok value => cases rest.mapM action <;> rfl

theorem exists_mapM_eq_ok_iff {action : α → Except ε β} {items : List α} :
    (∃ values, items.mapM action = .ok values) ↔ ∀ item ∈ items, ∃ value, action item = .ok value := by
  induction items with
  | nil => simp [pure, Except.pure]
  | cons item rest ih =>
      simp only [List.mapM_cons, bind_eq_ok_iff, List.forall_mem_cons, ← ih]
      constructor
      · intro mapped
        obtain ⟨_, value, first, values, others, _⟩ := mapped
        exact ⟨⟨value, first⟩, values, others⟩
      · intro each
        obtain ⟨⟨value, first⟩, values, others⟩ := each
        exact ⟨value :: values, value, first, values, others, rfl⟩

theorem exists_ok_of_any (action : Except ε β) (test : β → Bool)
    (passes : action.toOption.any test) : ∃ value, action = .ok value ∧ test value := by
  cases action with
  | error reason => simp [Except.toOption] at passes
  | ok value => exact ⟨value, rfl, passes⟩

theorem bind_eq_error_iff {action : Except ε β} {next : β → Except ε γ} {reason : ε} :
    action >>= next = .error reason ↔
      action = .error reason ∨ ∃ middle, action = .ok middle ∧ next middle = .error reason := by
  cases action with
  | error reason => simp [bind, Except.bind]
  | ok middle => simp [bind, Except.bind]

theorem exists_of_mapM_eq_error {action : α → Except ε β} {items : List α} {reason : ε}
    (failed : items.mapM action = .error reason) : ∃ item ∈ items, action item = .error reason := by
  induction items with
  | nil => cases failed
  | cons item rest ih =>
      rw [List.mapM_cons, bind_eq_error_iff] at failed
      rcases failed with first | ⟨value, _, later⟩
      · exact ⟨item, List.mem_cons_self .., first⟩
      · rcases bind_eq_error_iff.mp later with others | ⟨values, _, impossible⟩
        · obtain ⟨other, member, fails⟩ := ih others
          exact ⟨other, List.mem_cons_of_mem _ member, fails⟩
        · cases impossible

/-- The error of a computation that ends with one. -/
def error? : Except ε β → Option ε
  | .ok _ => none
  | .error reason => some reason

theorem error?_eq_some_iff {outcome : Except ε β} {reason : ε} :
    error? outcome = some reason ↔ outcome = .error reason := by
  cases outcome <;> simp [error?]

/-- What comes after a computation and cannot fail itself leaves the error as it is. -/
theorem error?_bind {action : Except ε β} {next : β → Except ε γ}
    (total : ∀ middle, ∃ value, next middle = .ok value) : error? (action >>= next) = error? action := by
  cases action with
  | error reason => rfl
  | ok middle =>
      obtain ⟨value, done⟩ := total middle
      simp only [bind, Except.bind, done, error?]

/-- Two computations that fail alike on every item fail alike on the list. -/
theorem error?_mapM_congr {first : α → Except ε β} {second : α → Except ε γ} {items : List α}
    (same : ∀ item ∈ items, error? (first item) = error? (second item)) :
    error? (items.mapM first) = error? (items.mapM second) := by
  induction items with
  | nil => rfl
  | cons item rest ih =>
      have head := same item (List.mem_cons_self ..)
      have tail := ih fun other member => same other (List.mem_cons_of_mem _ member)
      rw [List.mapM_cons, List.mapM_cons]
      cases firstItem : first item with
      | error reason =>
          rw [firstItem] at head
          have failed := error?_eq_some_iff.mp head.symm
          rw [failed]
          rfl
      | ok value =>
          cases secondItem : second item with
          | error reason =>
              rw [firstItem, secondItem] at head
              cases head
          | ok other =>
              calc
                error? (rest.mapM first >>= fun values => pure (value :: values))
                  = error? (rest.mapM first) := error?_bind fun values => ⟨_, rfl⟩
                _ = error? (rest.mapM second) := tail
                _ = error? (rest.mapM second >>= fun values => pure (other :: values)) :=
                  (error?_bind fun values => ⟨_, rfl⟩).symm

/-- Stopping at the first error gives the first of all errors, and without any the values of
the successes. -/
theorem mapM_eq_of_errors (action : α → Except ε β) (items : List α) :
    items.mapM action =
      match (items.map action).filterMap error? with
      | [] => .ok ((items.map action).filterMap Except.toOption)
      | reason :: _ => .error reason := by
  induction items with
  | nil => rfl
  | cons item rest ih =>
      rw [List.mapM_cons, ih, List.map_cons]
      cases first : action item with
      | error reason => rfl
      | ok value =>
          have noError : error? (Except.ok value : Except ε β) = none := rfl
          have kept : (Except.ok value : Except ε β).toOption = some value := rfl
          rw [List.filterMap_cons_none noError, List.filterMap_cons_some kept]
          cases (rest.map action).filterMap error? <;> rfl

theorem error?_mapM (action : α → Except ε β) (items : List α) :
    error? (items.mapM action) = (items.filterMap fun item => error? (action item)).head? := by
  rw [mapM_eq_of_errors, List.filterMap_map]
  change error? (match items.filterMap (fun item => error? (action item)) with
    | [] => _
    | reason :: _ => _) = _
  cases items.filterMap fun item => error? (action item) <;> rfl

/-- A computation fails first, or what comes after it does, which fails alike for all values. -/
theorem error?_bind_eq_or {action : Except ε β} {next : β → Except ε γ} {rest : Option ε}
    (later : ∀ middle, error? (next middle) = rest) :
    error? (action >>= next) = (error? action).or rest := by
  cases action with
  | error reason => rfl
  | ok middle => exact later middle

theorem error?_eq_none_iff {outcome : Except ε β} :
    error? outcome = none ↔ ∃ value, outcome = .ok value := by
  cases outcome <;> simp [error?]

theorem mapM_eq_error_iff {action : α → Except ε β} {items : List α} {reason : ε} :
    items.mapM action = .error reason ↔ ∃ before item after, items = before ++ item :: after ∧
      action item = .error reason ∧ ∀ earlier ∈ before, ∃ value, action earlier = .ok value := by
  rw [← error?_eq_some_iff, error?_mapM, List.head?_filterMap, List.findSome?_eq_some_iff]
  simp only [error?_eq_some_iff, error?_eq_none_iff]

/-- When all succeed, the values are those of the successes. -/
theorem filterMap_toOption_of_mapM {action : α → Except ε β} {items : List α} {values : List β}
    (mapped : items.mapM action = .ok values) :
    (items.map action).filterMap Except.toOption = values := by
  rw [mapM_eq_ok_iff] at mapped
  induction mapped with
  | nil => rfl
  | @cons item value items values first _ ih =>
      rw [List.map_cons, first]
      exact congrArg (value :: ·) ih

/-- What is picked out of the outcomes comes in the order of the items. -/
theorem picked_sublist {γ : Type x} {action : α → β} {pick : β → Option γ} {label : α → String}
    {pickedLabel : γ → String}
    (labelled : ∀ item picked, pick (action item) = some picked → pickedLabel picked = label item)
    (items : List α) :
    (((items.map action).filterMap pick).map pickedLabel).Sublist (items.map label) := by
  induction items with
  | nil => exact List.Sublist.refl _
  | cons item rest ih =>
      rw [List.map_cons, List.map_cons]
      cases found : pick (action item) with
      | none =>
          rw [List.filterMap_cons_none found]
          exact ih.cons _
      | some picked =>
          rw [List.filterMap_cons_some found, List.map_cons, labelled item picked found]
          exact ih.cons_cons _

/-- Every item has an outcome among the values or among the errors, and only there. -/
theorem outcomes_perm {action : α → Except ε β} {label : α → String} {valueLabel : β → String}
    {errorLabel : ε → String}
    (ofValue : ∀ item value, action item = .ok value → valueLabel value = label item)
    (ofError : ∀ item reason, action item = .error reason → errorLabel reason = label item)
    (items : List α) :
    (((items.map action).filterMap Except.toOption).map valueLabel ++
        ((items.map action).filterMap error?).map errorLabel).Perm (items.map label) := by
  induction items with
  | nil => exact List.Perm.refl _
  | cons item rest ih =>
      rw [List.map_cons, List.map_cons]
      cases outcome : action item with
      | ok value =>
          have kept : (Except.ok value : Except ε β).toOption = some value := rfl
          have noError : error? (Except.ok value : Except ε β) = none := rfl
          rw [List.filterMap_cons_some kept, List.filterMap_cons_none noError, List.map_cons,
            ofValue item value outcome]
          exact ih.cons _
      | error reason =>
          have dropped : (Except.error reason : Except ε β).toOption = none := rfl
          have reported : error? (Except.error reason : Except ε β) = some reason := rfl
          rw [List.filterMap_cons_none dropped, List.filterMap_cons_some reported, List.map_cons,
            ofError item reason outcome]
          exact List.perm_middle.trans (ih.cons _)

theorem exists_of_forall₂_left {relation : α → β → Prop} {items : List α} {values : List β}
    (related : List.Forall₂ relation items values) {item : α} (member : item ∈ items) :
    ∃ value ∈ values, relation item value := by
  induction related with
  | nil => cases member
  | cons first _ ih =>
      rcases List.mem_cons.mp member with same | later
      · exact ⟨_, List.mem_cons_self .., same ▸ first⟩
      · obtain ⟨value, valueMember, holds⟩ := ih later
        exact ⟨value, List.mem_cons_of_mem _ valueMember, holds⟩

theorem exists_of_forall₂_right {relation : α → β → Prop} {items : List α} {values : List β}
    (related : List.Forall₂ relation items values) {value : β} (member : value ∈ values) :
    ∃ item ∈ items, relation item value := by
  have flipped : List.Forall₂ (flip relation) values items := .flip related
  exact exists_of_forall₂_left flipped member

theorem exists_split_of_forall₂_left {relation : α → β → Prop} {before after : List α} {item : α}
    {values : List β} (related : List.Forall₂ relation (before ++ item :: after) values) :
    ∃ first value rest, values = first ++ value :: rest ∧ relation item value ∧
      List.Forall₂ relation after rest := by
  induction before generalizing values with
  | nil =>
      cases related with
      | cons here later => exact ⟨[], _, _, rfl, here, later⟩
  | cons head before ih =>
      cases related with
      | cons _ later =>
          obtain ⟨first, value, rest, rfl, here, behind⟩ := ih later
          exact ⟨_ :: first, value, rest, rfl, here, behind⟩

theorem exists_split_of_forall₂_right {relation : α → β → Prop} {items : List α}
    {before after : List β} {value : β}
    (related : List.Forall₂ relation items (before ++ value :: after)) :
    ∃ first item rest, items = first ++ item :: rest ∧ relation item value ∧
      List.Forall₂ relation rest after := by
  have flipped : List.Forall₂ (flip relation) (before ++ value :: after) items := .flip related
  obtain ⟨first, item, rest, split, here, behind⟩ := exists_split_of_forall₂_left flipped
  exact ⟨first, item, rest, split, here, .flip behind⟩

end SemanticLayer.Attempt
