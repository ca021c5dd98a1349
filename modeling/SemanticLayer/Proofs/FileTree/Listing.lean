import Mathlib.Data.List.Nodup
import SemanticLayer.Proofs.FileTree.Writing
namespace SemanticLayer

/-! The order in which directories are listed.

Trees that differ in this order only hold the same at every location (`Relisted.at?`) and have the same
files (`Relisted.files_perm`), and the same paths lead to the same places in them. -/

open SemanticLayer.Order

namespace FileTree

variable {first second tree other : FileTree} {entries others : List (String × FileTree)}
  {location : List String} {content : ByteArray} {name : String}

/-- The entries of every directory have different names. -/
inductive Distinct : FileTree → Prop
  | file (content : ByteArray) : Distinct (.file content)
  | directory (entries : List (String × FileTree)) : (entries.map Prod.fst).Nodup →
      (∀ entry ∈ entries, Distinct entry.2) → Distinct (.directory entries)

/-- The entries of some directories, at any depth, are listed in another order. -/
inductive Relisted : FileTree → FileTree → Prop
  | refl (tree : FileTree) : Relisted tree tree
  | listing {entries others : List (String × FileTree)} : entries.Perm others →
      Relisted (.directory entries) (.directory others)
  | inside (before after : List (String × FileTree)) (name : String) {tree other : FileTree} :
      Relisted tree other →
      Relisted (.directory (before ++ (name, tree) :: after))
        (.directory (before ++ (name, other) :: after))
  | trans {first second third : FileTree} : Relisted first second → Relisted second third →
      Relisted first third

theorem filesOf_eq_flatMap (entries : List (String × FileTree)) :
    filesOf entries = entries.flatMap fun entry =>
      (files entry.2).map fun file => (entry.1 :: file.1, file.2) := by
  induction entries with
  | nil => rfl
  | cons entry rest ih => rw [filesOf, ih, List.flatMap_cons]

theorem mem_filesOf_iff :
    (location, content) ∈ filesOf entries ↔
      ∃ entry ∈ entries, ∃ rest, location = entry.1 :: rest ∧ (rest, content) ∈ files entry.2 := by
  rw [filesOf_eq_flatMap, List.mem_flatMap]
  apply exists_congr
  intro entry
  simp only [List.mem_map, Prod.mk.injEq, Prod.exists]
  constructor
  · rintro ⟨member, rest, _, inside, rfl, rfl⟩
    exact ⟨member, rest, rfl, inside⟩
  · rintro ⟨member, rest, rfl, inside⟩
    exact ⟨member, rest, content, inside, rfl, rfl⟩

theorem mem_files_iff (distinct : tree.Distinct) :
    (location, content) ∈ tree.files ↔ tree.node? location = some (.file content) := by
  induction distinct generalizing location with
  | file text =>
      cases location with
      | nil => simp [files, node, eq_comm]
      | cons name rest => simp [files]
  | directory entries names below ih =>
      rw [files, mem_filesOf_iff]
      cases location with
      | nil => simp [node]
      | cons name rest =>
          rw [node?_directory_cons, Option.bind_eq_some_iff]
          constructor
          · rintro ⟨⟨key, tree⟩, member, _, same, inside⟩
            cases same
            exact ⟨tree, (lookup_eq_some_iff_mem names).mpr member, (ih _ member).mp inside⟩
          · rintro ⟨tree, found, inside⟩
            have member := (lookup_eq_some_iff_mem names).mp found
            exact ⟨_, member, rest, rfl, (ih _ member).mpr inside⟩

theorem locations_nodup (distinct : tree.Distinct) : (tree.files.map Prod.fst).Nodup := by
  induction distinct with
  | file => simp [files]
  | directory entries names below ih =>
      rw [files]
      clear below
      induction entries with
      | nil => simp [filesOf]
      | cons entry rest restIH =>
          obtain ⟨key, tree⟩ := entry
          obtain ⟨fresh, others⟩ := List.nodup_cons.mp names
          obtain ⟨here, later⟩ := List.forall_mem_cons.mp ih
          rw [filesOf, List.map_append, List.map_map, List.nodup_append]
          refine ⟨?_, restIH others later, ?_⟩
          · have longer := here.map (List.cons_injective (a := key))
            rwa [List.map_map] at longer
          · -- Locations behind the first entry begin with the names of the other ones.
            intro location listed otherLocation otherListed
            obtain ⟨file, _, rfl⟩ := List.mem_map.mp listed
            obtain ⟨⟨_, content⟩, member, rfl⟩ := List.mem_map.mp otherListed
            obtain ⟨entry, entryMember, below, same, _⟩ := mem_filesOf_iff.mp member
            intro equal
            have equalNames : key = entry.1 := (List.cons.inj (equal.trans same)).1
            exact fresh (List.mem_map.mpr ⟨entry, entryMember, equalNames.symm⟩)

theorem Distinct.at? (distinct : tree.Distinct) (found : tree.at? location = some other) :
    other.Distinct := by
  induction location generalizing tree with
  | nil =>
      cases found
      exact distinct
  | cons name location ih =>
      cases distinct with
      | file => cases found
      | directory entries names below =>
          obtain ⟨tree, named, inside⟩ := Option.bind_eq_some_iff.mp found
          exact ih (below _ ((lookup_eq_some_iff_mem names).mp named)) inside

namespace Relisted

theorem symm (relisted : first.Relisted second) : second.Relisted first := by
  induction relisted with
  | refl tree => exact .refl tree
  | listing permuted => exact .listing permuted.symm
  | inside before after name _ ih => exact .inside before after name ih
  | trans _ _ earlier later => exact .trans later earlier

theorem node_eq (relisted : first.Relisted second) : first.node = second.node := by
  induction relisted with
  | trans _ _ earlier later => exact earlier.trans later
  | _ => rfl

theorem distinct (relisted : first.Relisted second) (distinct : first.Distinct) : second.Distinct := by
  induction relisted with
  | refl => exact distinct
  | listing permuted =>
      cases distinct with
      | directory _ names below =>
          exact .directory _ ((permuted.map Prod.fst).nodup_iff.mp names)
            fun entry member => below entry (permuted.mem_iff.mpr member)
  | inside before after name _ ih =>
      cases distinct with
      | directory _ names below =>
          refine .directory _ (by simpa using names) fun entry member => ?_
          rcases List.mem_append.mp member with earlier | here
          · exact below entry (List.mem_append_left _ earlier)
          · rcases List.mem_cons.mp here with rfl | later
            · exact ih (below (name, _) (by simp))
            · exact below entry (by simp [later])
  | trans _ _ earlier later => exact later (earlier distinct)

theorem files_perm (relisted : first.Relisted second) : first.files.Perm second.files := by
  induction relisted with
  | refl => exact List.Perm.refl _
  | listing permuted =>
      rw [files, files, filesOf_eq_flatMap, filesOf_eq_flatMap]
      exact permuted.flatMap_right _
  | inside before after name _ ih =>
      rw [files, files, filesOf_eq_flatMap, filesOf_eq_flatMap]
      simp only [List.flatMap_append, List.flatMap_cons]
      exact ((ih.map _).append_right _).append_left _
  | trans _ _ earlier later => exact earlier.trans later

/-- What is found at a location is found there in the other tree, listed in another order perhaps. -/
theorem at? (relisted : first.Relisted second) (distinct : first.Distinct)
    (found : first.at? location = some tree) :
    ∃ other, second.at? location = some other ∧ tree.Relisted other := by
  induction relisted generalizing location tree with
  | refl => exact ⟨tree, found, .refl tree⟩
  | @listing entries others permuted =>
      cases location with
      | nil =>
          cases found
          exact ⟨_, rfl, .listing permuted⟩
      | cons name location =>
          cases distinct with
          | directory _ names _ =>
              have otherNames := (permuted.map Prod.fst).nodup_iff.mp names
              have same : others.lookup name = entries.lookup name := by
                refine Option.ext fun below => ?_
                rw [lookup_eq_some_iff_mem names, lookup_eq_some_iff_mem otherNames, permuted.mem_iff]
              refine ⟨tree, ?_, .refl tree⟩
              rw [← found, at?_cons, at?_cons, child?, child?, same]
  | @inside before after key below otherBelow relisted ih =>
      cases location with
      | nil =>
          cases found
          exact ⟨_, rfl, .inside before after key relisted⟩
      | cons name location =>
          cases distinct with
          | directory _ names distinctBelow =>
              have belowDistinct := distinctBelow (key, below) (by simp)
              rw [at?_cons, child?, List.lookup_append, lookup_cons] at found
              rw [at?_cons, child?, List.lookup_append, lookup_cons]
              cases earlier : before.lookup name with
              | some entry =>
                  rw [earlier] at found
                  exact ⟨tree, found, .refl tree⟩
              | none =>
                  rw [earlier, Option.none_or] at found
                  rw [Option.none_or]
                  by_cases same : name = key
                  · rw [if_pos same] at found ⊢
                    exact ih belowDistinct found
                  · rw [if_neg same] at found ⊢
                    exact ⟨tree, found, .refl tree⟩
  | trans firstStep _ earlier later =>
      obtain ⟨middle, middleFound, toMiddle⟩ := earlier distinct found
      obtain ⟨other, otherFound, fromMiddle⟩ := later (firstStep.distinct distinct) middleFound
      exact ⟨other, otherFound, .trans toMiddle fromMiddle⟩

theorem node?_eq (relisted : first.Relisted second) (distinct : first.Distinct)
    (location : List String) : second.node? location = first.node? location := by
  unfold node?
  cases found : first.at? location with
  | some tree =>
      obtain ⟨other, otherFound, below⟩ := relisted.at? distinct found
      rw [otherFound, Option.map_some, Option.map_some, below.node_eq]
  | none =>
      cases otherFound : second.at? location with
      | none => rfl
      | some other =>
          obtain ⟨tree, again, _⟩ := relisted.symm.at? (relisted.distinct distinct) otherFound
          rw [found] at again
          cases again

theorem keeps (relisted : first.Relisted second) (distinct : first.Distinct) : first.Keeps second :=
  ⟨fun location => by rw [relisted.node?_eq distinct]; exact id,
    fun location => by rw [relisted.node?_eq distinct]; exact id⟩

end Relisted

end FileTree

namespace Place

variable {place : Place} {tree found : FileTree} {path : String}

theorem find_eq_ok_iff :
    place.find path = .ok found ↔
      ∃ location, place.locate path = .ok location ∧ place.tree.at? location = some found := by
  unfold find
  rw [Attempt.bind_eq_ok_iff]
  apply exists_congr
  intro location
  apply and_congr_right
  intro _
  cases place.tree.at? location with
  | none => simp [throw, throwThe, MonadExceptOf.throw]
  | some below => simp [pure, Except.pure]

/-- A path leads to the same thing, whatever the order of the listings. -/
theorem find_of_relisted (relisted : place.tree.Relisted tree) (distinct : place.tree.Distinct)
    (leads : place.find path = .ok found) :
    ∃ other, { place with tree }.find path = .ok other ∧ found.Relisted other := by
  obtain ⟨location, located, here⟩ := find_eq_ok_iff.mp leads
  obtain ⟨other, there, same⟩ := relisted.at? distinct here
  refine ⟨other, find_eq_ok_iff.mpr ⟨location, ?_, there⟩, same⟩
  exact locate_of_keeps (relisted.keeps distinct) rfl located

theorem distinct_of_find (distinct : place.tree.Distinct) (leads : place.find path = .ok found) :
    found.Distinct := by
  obtain ⟨_, _, here⟩ := find_eq_ok_iff.mp leads
  exact distinct.at? here

end Place

end SemanticLayer
