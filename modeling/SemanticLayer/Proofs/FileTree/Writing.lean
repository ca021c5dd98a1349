import SemanticLayer.FileTree.Place
import SemanticLayer.Proofs.Attempt
import SemanticLayer.Proofs.FileTree.Node
namespace SemanticLayer

/-! Writing files.

A written file is found under its path, and nothing else has changed (`Place.Wrote`). Writing keeps
every directory, so a path leads to the same location as long as files are written after one
another (`Place.locate_of_keeps`). -/

namespace FileTree

/-- What is there stays there, and directories stay directories. -/
structure Keeps (before after : FileTree) : Prop where
  present : ∀ location, before.node? location ≠ none → after.node? location ≠ none
  directories : ∀ location, before.node? location = some .directory →
    after.node? location = some .directory

theorem Keeps.refl (tree : FileTree) : tree.Keeps tree := ⟨fun _ => id, fun _ => id⟩

theorem Keeps.trans {first second third : FileTree} (earlier : first.Keeps second)
    (later : second.Keeps third) : first.Keeps third :=
  ⟨fun location => later.present location ∘ earlier.present location,
    fun location => later.directories location ∘ earlier.directories location⟩

/-- What comes to stand in place of a file or of nothing takes nothing away. -/
theorem Keeps.of_node?_eq {before after : FileTree} {location : List String} {node : FileNode}
    (free : before.node? location ≠ some .directory)
    (seen : ∀ other, after.node? other = if other = location then some node else before.node? other) :
    before.Keeps after := by
  refine ⟨fun other present => ?_, fun other directory => ?_⟩
  · rw [seen]
    split
    · exact Option.some_ne_none _
    · exact present
  · have apart : other ≠ location := fun same => free (same ▸ directory)
    rw [seen, if_neg apart, directory]

/-- Only directories have come into being. -/
def AddsDirectories (before after : FileTree) : Prop :=
  ∀ location, after.node? location = before.node? location ∨
    (before.node? location = none ∧ after.node? location = some .directory)

theorem AddsDirectories.refl (tree : FileTree) : tree.AddsDirectories tree := fun _ => .inl rfl

theorem AddsDirectories.trans {first second third : FileTree} (earlier : first.AddsDirectories second)
    (later : second.AddsDirectories third) : first.AddsDirectories third := by
  intro location
  rcases later location with kept | ⟨absent, made⟩
  · rw [kept]
    exact earlier location
  · rcases earlier location with kept | ⟨_, directory⟩
    · exact .inr ⟨kept ▸ absent, made⟩
    · rw [directory] at absent
      cases absent

end FileTree

namespace Place

variable {tree after : FileTree} {location next : List String} {piece path text : String}
  {place made written : Place}

theorem requireDirectory_eq_ok_iff :
    requireDirectory tree location = .ok () ↔ tree.node? location = some .directory := by
  unfold requireDirectory FileTree.node?
  cases tree.at? location with
  | none => simp
  | some found => cases found <;> simp [FileTree.node]

/-- In a directory only what the piece names decides. -/
theorem step_of_directory (directory : tree.node? location = some .directory) (piece : String) :
    step tree location piece =
      if Path.isIdle piece then .ok location
      else if piece = ".." then .ok location.dropLast
      else if 255 < piece.utf8ByteSize then .error .nameTooLong
      else if (tree.node? (location ++ [piece])).isNone then .error .notFound
      else .ok (location ++ [piece]) := by
  have same : (tree.at? (location ++ [piece])).isNone = (tree.node? (location ++ [piece])).isNone := by
    simp [FileTree.node?]
  unfold step
  rw [requireDirectory_eq_ok_iff.mpr directory]
  simp only [same, beq_iff_eq]
  split
  · rfl
  · split
    · rfl
    · split
      · rfl
      · split <;> rfl

theorem step_eq_ok_iff :
    step tree location piece = .ok next ↔
      tree.node? location = some .directory ∧
        if Path.isIdle piece then next = location
        else if piece = ".." then next = location.dropLast
        else piece.utf8ByteSize ≤ 255 ∧ tree.node? (location ++ [piece]) ≠ none ∧
          next = location ++ [piece] := by
  by_cases directory : tree.node? location = some .directory
  · rw [step_of_directory directory, and_iff_right directory]
    split
    · rw [Except.ok.injEq, eq_comm]
    · split
      · rw [Except.ok.injEq, eq_comm]
      · split
        · rename_i long
          exact iff_of_false nofun fun found => absurd long (Nat.not_lt.mpr found.1)
        · split
          · rename_i missing
            exact iff_of_false nofun fun found => found.2.1 (Option.isNone_iff_eq_none.mp missing)
          · rename_i short present
            rw [Except.ok.injEq, eq_comm, and_iff_right (Nat.le_of_not_lt short)]
            exact (and_iff_right fun missing => present (Option.isNone_iff_eq_none.mpr missing)).symm
  · refine iff_of_false (fun found => directory ?_) fun found => directory found.1
    exact requireDirectory_eq_ok_iff.mp (Attempt.check_bind_eq_ok_iff.mp found).1

theorem step_of_keeps (keeps : tree.Keeps after) (found : step tree location piece = .ok next) :
    step after location piece = .ok next := by
  rw [step_eq_ok_iff] at found ⊢
  obtain ⟨directory, goes⟩ := found
  refine ⟨keeps.directories location directory, ?_⟩
  by_cases idle : Path.isIdle piece
  · rwa [if_pos idle] at goes ⊢
  · rw [if_neg idle] at goes ⊢
    by_cases up : piece = ".."
    · rwa [if_pos up] at goes ⊢
    · rw [if_neg up] at goes ⊢
      exact ⟨goes.1, keeps.present _ goes.2.1, goes.2.2⟩

theorem foldlM_step_of_keeps (keeps : tree.Keeps after) {pieces : List String}
    (found : pieces.foldlM (step tree) location = .ok next) :
    pieces.foldlM (step after) location = .ok next := by
  induction pieces generalizing location with
  | nil => exact found
  | cons piece rest ih =>
      rw [List.foldlM_cons, Attempt.bind_eq_ok_iff] at found ⊢
      obtain ⟨middle, first, later⟩ := found
      exact ⟨middle, step_of_keeps keeps first, ih later⟩

/-- A path that leads somewhere leads there as long as nothing is taken away. -/
theorem locate_of_keeps {later : Place} (keeps : place.tree.Keeps later.tree)
    (same : later.working = place.working) (found : place.locate path = .ok location) :
    later.locate path = .ok location := by
  unfold locate start at found ⊢
  rw [Attempt.check_bind_eq_ok_iff] at found ⊢
  rw [same]
  exact ⟨found.1, foldlM_step_of_keeps keeps found.2⟩

theorem eq_append_of_last {pieces : List String} {name : String} (proper : ¬ Path.isIdle name)
    (last : pieces.getLast?.getD "" = name) : pieces = pieces.dropLast ++ [name] := by
  cases found : pieces.getLast? with
  | none =>
      rw [found, Option.getD_none] at last
      exact absurd (last ▸ rfl) proper
  | some own =>
      rw [found, Option.getD_some] at last
      rw [← last, List.dropLast_append_getLast? own found]

theorem of_writeText (wrote : place.writeText path text = .ok written) :
    ∃ front location name, Path.pieces path = front ++ [name] ∧ checkPath path = .ok () ∧
      front.foldlM (step place.tree) (place.start path) = .ok location ∧
      place.tree.node? location = some .directory ∧ ¬ Path.isIdle name ∧ name ≠ ".." ∧
      name.utf8ByteSize ≤ 255 ∧ place.tree.node? (location ++ [name]) ≠ some .directory ∧
      written = { place with tree := place.tree.put location name (.file text.toUTF8) } := by
  unfold writeText at wrote
  rw [Attempt.check_bind_eq_ok_iff] at wrote
  obtain ⟨checked, wrote⟩ := wrote
  -- The path is followed without its last piece, which names the file.
  obtain ⟨location, walked, wrote⟩ := Attempt.bind_eq_ok_iff.mp wrote
  rw [Attempt.check_bind_eq_ok_iff, requireDirectory_eq_ok_iff] at wrote
  obtain ⟨directory, wrote⟩ := wrote
  generalize last : (Path.pieces path).getLast?.getD "" = name at wrote
  by_cases special : (Path.isIdle name || name == "..") = true
  · rw [if_pos special] at wrote
    cases wrote
  · rw [if_neg special] at wrote
    by_cases long : 255 < name.utf8ByteSize
    · rw [if_pos long] at wrote
      cases wrote
    · rw [if_neg long] at wrote
      rw [Bool.or_eq_true, not_or, beq_iff_eq] at special
      refine ⟨_, location, name, eq_append_of_last special.1 last, checked, walked, directory, special.1,
        special.2, Nat.le_of_not_lt long, ?_⟩
      unfold FileTree.node?
      cases found : place.tree.at? (location ++ [name]) with
      | none =>
          rw [found] at wrote
          exact ⟨nofun, Attempt.pure_eq_ok_iff.mp wrote⟩
      | some below =>
          rw [found] at wrote
          cases below with
          | directory entries => cases wrote
          | file content => exact ⟨nofun, Attempt.pure_eq_ok_iff.mp wrote⟩

/-- The file to which `path` leads holds `text`, and nothing else has changed. -/
structure Wrote (place : Place) (path text : String) (written : Place) : Prop where
  working : written.working = place.working
  seen : ∃ location, written.locate path = .ok location ∧
    place.tree.node? location ≠ some .directory ∧ ∀ other,
      written.tree.node? other =
        if other = location then some (.file text.toUTF8) else place.tree.node? other

theorem Wrote.keeps (wrote : place.Wrote path text written) : place.tree.Keeps written.tree := by
  obtain ⟨location, _, free, seen⟩ := wrote.seen
  exact .of_node?_eq free seen

theorem wrote_of_writeText (wrote : place.writeText path text = .ok written) :
    place.Wrote path text written := by
  obtain ⟨front, location, name, whole, checked, walked, directory, proper, notUp, short, free, rfl⟩ :=
    of_writeText wrote
  have seen := FileTree.node?_put directory free (FileTree.node?_file_cons text.toUTF8)
  have keeps := FileTree.Keeps.of_node?_eq free seen
  refine ⟨rfl, location ++ [name], ?_, free, seen⟩
  have last : step (place.tree.put location name (.file text.toUTF8)) location name =
      .ok (location ++ [name]) := by
    rw [step_eq_ok_iff, if_neg proper, if_neg notUp, seen (location ++ [name]), if_pos rfl]
    exact ⟨keeps.directories location directory, short, Option.some_ne_none _, rfl⟩
  unfold locate
  rw [Attempt.check_bind_eq_ok_iff, whole, List.foldlM_append, Attempt.bind_eq_ok_iff]
  refine ⟨checked, location, foldlM_step_of_keeps keeps walked, ?_⟩
  rw [List.foldlM_cons, Attempt.bind_eq_ok_iff]
  exact ⟨location ++ [name], last, rfl⟩

theorem absent_of_step (directory : tree.node? location = some .directory)
    (failed : step tree location piece = .error .notFound) :
    tree.node? (location ++ [piece]) = none := by
  rw [step_of_directory directory] at failed
  split at failed
  · cases failed
  · split at failed
    · cases failed
    · split at failed
      · cases failed
      · split at failed
        · rename_i missing
          exact Option.isNone_iff_eq_none.mp missing
        · cases failed

theorem addsDirectories_of_make {state next : FileTree × List String}
    (made : make state piece = .ok next) : state.1.AddsDirectories next.1 := by
  rcases state with ⟨tree, location⟩
  unfold make at made
  cases went : step tree location piece with
  | ok further =>
      simp only [went, Except.ok.injEq] at made
      subst made
      exact .refl tree
  | error error =>
      cases error with
      | notFound =>
          simp only [went, Except.ok.injEq] at made
          subst made
          intro other
          -- Without a directory at the location there is nothing to put the new one into.
          by_cases directory : tree.node? location = some .directory
          · have absent := absent_of_step directory went
            have free : tree.node? (location ++ [piece]) ≠ some .directory := by
              rw [absent]
              exact nofun
            rw [FileTree.node?_put directory free fun _ _ => rfl]
            split
            · rename_i same
              exact .inr ⟨same ▸ absent, rfl⟩
            · exact .inl rfl
          · exact .inl (FileTree.node?_put_of_not_directory directory piece _ other)
      | _ => simp only [went, reduceCtorEq] at made

theorem addsDirectories_of_foldlM_make {pieces : List String} {state next : FileTree × List String}
    (made : pieces.foldlM make state = .ok next) : state.1.AddsDirectories next.1 := by
  induction pieces generalizing state with
  | nil =>
      cases made
      exact .refl _
  | cons piece rest ih =>
      obtain ⟨middle, first, later⟩ := Attempt.bind_eq_ok_iff.mp made
      exact (addsDirectories_of_make first).trans (ih later)

/-- Making a directory changes no file. -/
theorem addsDirectories_of_createDirectories (created : place.createDirectories path = .ok made) :
    made.working = place.working ∧ place.tree.AddsDirectories made.tree := by
  unfold createDirectories at created
  by_cases empty : path.isEmpty
  · rw [if_pos empty] at created
    cases created
    exact ⟨rfl, .refl _⟩
  · rw [if_neg empty, Attempt.check_bind_eq_ok_iff] at created
    obtain ⟨_, created⟩ := created
    dsimp only at created
    obtain ⟨⟨tree, location⟩, walked, created⟩ := Attempt.bind_eq_ok_iff.mp created
    obtain ⟨location, _, created⟩ := Attempt.bind_eq_ok_iff.mp created
    cases found : tree.at? location with
    | none => simp [found] at created
    | some below =>
        cases below with
        | file content => simp [found] at created
        | directory entries =>
          simp only [found, Attempt.pure_eq_ok_iff] at created
          subst created
          exact ⟨rfl, addsDirectories_of_foldlM_make walked⟩

end Place

end SemanticLayer
