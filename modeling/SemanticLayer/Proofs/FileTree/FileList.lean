import SemanticLayer.Proofs.FileTree.PlainName
import SemanticLayer.Proofs.FileTree.Writing
namespace SemanticLayer.Place

/-! Writing several files into a directory.

Each path leads to a file in the end. The last text written to a file is what it holds
(`WroteAll.holds_last`), and what no path leads to is as before (`WroteAll.unchanged`). So all texts
are there exactly when no path leads to the file of another text (`WroteAll.holds_iff`), as is the case
for names without a slash (`WroteAll.agree_of_plain`). -/

/-- The files, given by name and text, have been written into `directory` one after the other. -/
inductive WroteAll (directory : String) : Place → List (String × String) → Place → Prop
  | nil {place} : WroteAll directory place [] place
  | cons {place middle after name text rest} :
      place.Wrote (Path.join directory name) text middle →
      WroteAll directory middle rest after → WroteAll directory place ((name, text) :: rest) after

variable {before place middle after : Place} {directory name text path : String} {location : List String}
  {files earlier later : List (String × String)}

namespace WroteAll

theorem keeps (wrote : WroteAll directory place files after) :
    place.tree.Keeps after.tree ∧ after.working = place.working := by
  induction wrote with
  | nil => exact ⟨.refl _, rfl⟩
  | cons first _ ih => exact ⟨first.keeps.trans ih.1, ih.2.trans first.working⟩

theorem locate (wrote : WroteAll directory place files after) (found : place.locate path = .ok location) :
    after.locate path = .ok location :=
  locate_of_keeps wrote.keeps.1 wrote.keeps.2 found

theorem split (wrote : WroteAll directory place (earlier ++ later) after) :
    ∃ middle, WroteAll directory place earlier middle ∧ WroteAll directory middle later after := by
  induction earlier generalizing place with
  | nil => exact ⟨place, .nil, wrote⟩
  | cons file rest ih =>
      cases wrote with
      | cons first others =>
          obtain ⟨middle, before, behind⟩ := ih others
          exact ⟨middle, .cons first before, behind⟩

/-- What no path leads to is as before. -/
theorem unchanged (wrote : WroteAll directory place files after)
    (missed : ∀ file ∈ files, after.locate (Path.join directory file.1) ≠ .ok location) :
    after.tree.node? location = place.tree.node? location := by
  induction wrote with
  | nil => rfl
  | cons first others ih =>
      -- The first path still leads to its file when the others have been written.
      obtain ⟨own, found, _, seen⟩ := first.seen
      have apart : location ≠ own := fun same =>
        missed _ (List.mem_cons_self ..) (same ▸ others.locate found)
      rw [ih fun file member => missed file (List.mem_cons_of_mem _ member), seen, if_neg apart]

/-- A file holds the text of the last entry that leads to it. -/
theorem holds_last (wrote : WroteAll directory place (earlier ++ (name, text) :: later) after)
    (found : after.locate (Path.join directory name) = .ok location)
    (last : ∀ file ∈ later, after.locate (Path.join directory file.1) ≠ .ok location) :
    after.tree.node? location = some (.file text.toUTF8) := by
  obtain ⟨middle, _, behind⟩ := wrote.split
  cases behind with
  | cons own others =>
      obtain ⟨place, placed, _, seen⟩ := own.seen
      have same : location = place := Except.ok.inj (found.symm.trans (others.locate placed))
      rw [others.unchanged last, seen, if_pos same]

theorem exists_location (wrote : WroteAll directory place files after) {file : String × String}
    (member : file ∈ files) :
    ∃ location, after.locate (Path.join directory file.1) = .ok location := by
  induction wrote with
  | nil => cases member
  | cons first others ih =>
      rcases List.mem_cons.mp member with rfl | behind
      · obtain ⟨location, found, _⟩ := first.seen
        exact ⟨location, others.locate found⟩
      · exact ih behind

theorem not_directory (wrote : WroteAll directory place files after)
    (free : place.tree.node? location ≠ some .directory) :
    after.tree.node? location ≠ some .directory := by
  induction wrote with
  | nil => exact free
  | cons first _ ih =>
      obtain ⟨own, _, _, seen⟩ := first.seen
      refine ih ?_
      rw [seen]
      split
      · exact nofun
      · exact free

theorem not_directory_of_mem (wrote : WroteAll directory place files after) {file : String × String}
    (member : file ∈ files) (found : after.locate (Path.join directory file.1) = .ok location) :
    after.tree.node? location ≠ some .directory := by
  obtain ⟨earlier, later, rfl⟩ := List.append_of_mem member
  obtain ⟨middle, _, behind⟩ := wrote.split
  cases behind with
  | cons own others =>
      obtain ⟨place, placed, _, seen⟩ := own.seen
      have same : location = place := Except.ok.inj (found.symm.trans (others.locate placed))
      refine others.not_directory ?_
      rw [seen, if_pos same]
      exact nofun

end WroteAll

/-- The path of a file, given by name and text, leads to its text. -/
def Holds (place : Place) (directory : String) (file : String × String) : Prop :=
  ∃ location, place.locate (Path.join directory file.1) = .ok location ∧
    place.tree.node? location = some (.file file.2.toUTF8)

/-- Files whose paths lead to one place have one text. -/
def Agree (place : Place) (directory : String) (files : List (String × String)) : Prop :=
  ∀ first ∈ files, ∀ second ∈ files, ∀ location,
    place.locate (Path.join directory first.1) = .ok location →
    place.locate (Path.join directory second.1) = .ok location → first.2 = second.2

/-- Every file holds its text exactly when none has been overwritten with another text. -/
theorem WroteAll.holds_iff (wrote : WroteAll directory place files after) :
    (∀ file ∈ files, after.Holds directory file) ↔ after.Agree directory files := by
  constructor
  · intro holds first firstMember second secondMember location firstFound secondFound
    obtain ⟨_, found, own⟩ := holds first firstMember
    obtain ⟨_, otherFound, other⟩ := holds second secondMember
    cases Except.ok.inj (found.symm.trans firstFound)
    cases Except.ok.inj (otherFound.symm.trans secondFound)
    have same := own.symm.trans other
    rw [Option.some.injEq, FileNode.file.injEq] at same
    exact String.toByteArray_inj.mp same
  · intro agree file member
    obtain ⟨location, found⟩ := wrote.exists_location member
    refine ⟨location, found, ?_⟩
    classical
    cases last : files.reverse.find? fun other =>
        decide (after.locate (Path.join directory other.1) = .ok location) with
    | none =>
        have missed := List.find?_eq_none.mp last file (List.mem_reverse.mpr member)
        exact absurd (decide_eq_true found) missed
    | some other =>
        obtain ⟨leads, earlier, later, whole, behind⟩ := Order.find?_reverse_eq_some_iff.mp last
        have otherMember := List.mem_reverse.mp (List.mem_of_find?_eq_some last)
        rw [agree file member other otherMember location found (of_decide_eq_true leads)]
        rw [whole] at wrote
        exact wrote.holds_last (of_decide_eq_true leads) fun file fileMember same =>
          behind file fileMember (decide_eq_true same)

theorem checkPath_eq_ok_iff :
    checkPath path = .ok () ↔ '\x00' ∉ path.toList ∧ path ≠ "" ∧ path.utf8ByteSize < 4096 := by
  unfold checkPath
  split
  · simp_all
  · split
    · simp_all
    · split <;> simp_all

theorem checkPath_of_append (inhabited : path ≠ "") {rest : String}
    (checked : checkPath (path ++ rest) = .ok ()) : checkPath path = .ok () := by
  rw [checkPath_eq_ok_iff] at checked ⊢
  obtain ⟨plain, _, short⟩ := checked
  rw [String.toList_append, List.mem_append, not_or] at plain
  rw [String.utf8ByteSize_append] at short
  exact ⟨plain.1, inhabited, by omega⟩

/-- A path that ends in a plain name leads to an entry of that name in the directory, if not to a
directory. -/
theorem exists_of_locate_join (plain : Path.IsPlain name)
    (found : place.locate (Path.join directory name) = .ok location)
    (other : place.tree.node? location ≠ some .directory) :
    ∃ front, location = front ++ [name] ∧ (directory ≠ "" → place.locate directory = .ok front) := by
  obtain ⟨pieces, whole, own⟩ := Path.exists_pieces_join directory plain
  unfold locate at found
  rw [Attempt.check_bind_eq_ok_iff, whole, List.foldlM_append] at found
  obtain ⟨front, walked, last⟩ := Attempt.bind_eq_ok_iff.mp found.2
  rw [List.foldlM_cons] at last
  obtain ⟨next, stepped, rest⟩ := Attempt.bind_eq_ok_iff.mp last
  cases rest
  obtain ⟨within, goes⟩ := step_eq_ok_iff.mp stepped
  by_cases idle : Path.isIdle name
  · rw [if_pos idle] at goes
    exact absurd (goes ▸ within) other
  · rw [if_neg idle] at goes
    by_cases up : name = ".."
    · rw [if_pos up] at goes
      exact absurd (goes ▸ FileTree.node?_dropLast within) other
    · rw [if_neg up] at goes
      refine ⟨front, goes.2.2, fun inhabited => ?_⟩
      obtain ⟨rest, joined⟩ :=
        Path.exists_join_eq_append (Path.not_isAbsolute_of_plain plain) inhabited
      rw [joined] at found walked
      have begins : place.start (directory ++ rest) = place.start directory := by
        unfold start
        rw [Path.isAbsolute_append inhabited]
      rw [begins] at walked
      unfold locate
      rw [Attempt.check_bind_eq_ok_iff]
      refine ⟨checkPath_of_append inhabited found.1, ?_⟩
      rcases own inhabited with same | closed
      · rw [same]
        exact walked
      · -- The directory ends in a slash, behind which nothing follows.
        rw [closed, List.foldlM_append, Attempt.bind_eq_ok_iff]
        have stays : step place.tree front "" = .ok front := by
          rw [step_eq_ok_iff, if_pos (by decide)]
          exact ⟨within, rfl⟩
        refine ⟨front, walked, ?_⟩
        rw [List.foldlM_cons, Attempt.bind_eq_ok_iff]
        exact ⟨front, stays, rfl⟩

namespace WroteAll

variable (wrote : WroteAll directory place files after) (plain : ∀ file ∈ files, Path.IsPlain file.1)
include wrote plain

/-- A file with a plain name stands in the directory under this name. -/
theorem stands_in {file : String × String} (member : file ∈ files) :
    ∃ front, after.locate (Path.join directory file.1) = .ok (front ++ [file.1]) ∧
      (directory ≠ "" → after.locate directory = .ok front) := by
  obtain ⟨location, found⟩ := wrote.exists_location member
  have other := wrote.not_directory_of_mem member found
  obtain ⟨front, rfl, own⟩ := exists_of_locate_join (plain file member) found other
  exact ⟨front, found, own⟩

/-- Files with different plain names do not overwrite one another. -/
theorem agree_of_plain (distinct : (files.map Prod.fst).Nodup) : after.Agree directory files := by
  intro first firstMember second secondMember location firstFound secondFound
  obtain ⟨_, firstStands, _⟩ := wrote.stands_in plain firstMember
  obtain ⟨_, secondStands, _⟩ := wrote.stands_in plain secondMember
  have ends := (firstStands.symm.trans firstFound).trans (secondFound.symm.trans secondStands)
  have names : first.1 = second.1 :=
    List.singleton_inj.mp (List.append_inj_right' (Except.ok.inj ends) rfl)
  rw [List.inj_on_of_nodup_map distinct firstMember secondMember names]

end WroteAll

/-- `after` has the files in `directory` and is otherwise as `before`. -/
structure HasFiles (before : Place) (directory : String) (files : List (String × String))
    (after : Place) : Prop where
  present : ∀ file ∈ files, ∃ location, after.locate (Path.join directory file.1) = .ok location
  /-- A file to which several paths lead holds the last of their texts. -/
  holds : ∀ earlier name text later location, files = earlier ++ (name, text) :: later →
    after.locate (Path.join directory name) = .ok location →
    (∀ file ∈ later, after.locate (Path.join directory file.1) ≠ .ok location) →
    after.tree.node? location = some (.file text.toUTF8)
  unchanged : ∀ location,
    (∀ file ∈ files, after.locate (Path.join directory file.1) ≠ .ok location) →
    after.tree.node? location = before.tree.node? location ∨
      (before.tree.node? location = none ∧ after.tree.node? location = some .directory)

theorem WroteAll.hasFiles (wrote : WroteAll directory place files after)
    (made : before.tree.AddsDirectories place.tree) : before.HasFiles directory files after := by
  refine ⟨fun file => wrote.exists_location, ?_, fun location missed => ?_⟩
  · intro earlier name text later location whole found last
    rw [whole] at wrote
    exact wrote.holds_last found last
  · rw [wrote.unchanged missed]
    exact made location

end SemanticLayer.Place
