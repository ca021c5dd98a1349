import Mathlib.Data.List.TakeWhile
import SemanticLayer.Proofs.FileTree.Listing
import SemanticLayer.Proofs.Text.ByteOrder
import SemanticLayer.Source.Loading
namespace SemanticLayer

/-! Loading all files below a directory.

The files with the right names are read in the order of their locations, so the order in which
directories are listed plays no part. -/

theorem Path.nameExtension?_eq_some_iff {name ending : String} (plain : '.' ∉ ending.toList) :
    nameExtension? name = some ending ↔ ∃ stem, stem ≠ "" ∧ name = stem ++ "." ++ ending := by
  constructor
  · intro found
    unfold nameExtension? at found
    simp only at found
    split at found
    · next first rest cut =>
      cases found
      have split := List.take_append_drop (name.toList.reverse.takeWhile (· != '.')).length
        name.toList.reverse
      rw [cut, ← List.prefix_iff_eq_take.mp (List.takeWhile_prefix _)] at split
      refine ⟨String.ofList (rest.reverse ++ [first]), by simp [← String.toList_inj], ?_⟩
      have whole := congrArg List.reverse split
      rw [List.reverse_reverse] at whole
      exact String.toList_inj.mp (whole.symm.trans (by simp))
    · cases found
  · rintro ⟨stem, inhabited, rfl⟩
    obtain ⟨first, rest, begun⟩ := List.exists_cons_of_ne_nil (l := stem.toList.reverse)
      (by simpa using inhabited)
    have before : ∀ c ∈ ending.toList.reverse, (c != '.') = true := by
      intro c member
      simp only [bne_iff_ne, ne_eq]
      rintro rfl
      exact plain (List.mem_reverse.mp member)
    have reversed : (stem ++ "." ++ ending).toList.reverse =
        ending.toList.reverse ++ '.' :: first :: rest := by
      simp [begun]
    have taken : (stem ++ "." ++ ending).toList.reverse.takeWhile (· != '.') =
        ending.toList.reverse := by
      rw [reversed, List.takeWhile_append_of_pos before]
      simp
    unfold nameExtension?
    simp only [taken]
    rw [reversed, List.drop_left]
    simp

namespace Source

variable {tree : FileTree} {location : List String} {content : ByteArray}

/-- The file at the location has a name that ends in `.yml` or `.yaml` and does not begin with it. -/
def IsYaml (location : List String) : Prop :=
  ∃ front stem ending, stem ≠ "" ∧ (ending = "yml" ∨ ending = "yaml") ∧
    location = front ++ [stem ++ "." ++ ending]

theorem isYamlLocation_iff : isYamlLocation location ↔ IsYaml location := by
  unfold isYamlLocation IsYaml
  rcases List.eq_nil_or_concat location with rfl | ⟨front, name, rfl⟩
  · simp
  · simp only [List.concat_eq_append, List.getLast?_concat, Option.bind_some, Option.any_eq_true]
    constructor
    · rintro ⟨ending, found, known⟩
      have yaml : ending = "yml" ∨ ending = "yaml" := by simpa [isYamlExtension] using known
      have plain : '.' ∉ ending.toList := by rcases yaml with rfl | rfl <;> decide
      obtain ⟨stem, inhabited, rfl⟩ := (Path.nameExtension?_eq_some_iff plain).mp found
      exact ⟨front, stem, ending, inhabited, yaml, rfl⟩
    · rintro ⟨_, stem, ending, inhabited, yaml, same⟩
      have plain : '.' ∉ ending.toList := by rcases yaml with rfl | rfl <;> decide
      obtain ⟨_, named⟩ := List.append_inj' same rfl
      refine ⟨ending, ?_, by simpa [isYamlExtension] using yaml⟩
      exact (Path.nameExtension?_eq_some_iff plain).mpr ⟨stem, inhabited, List.singleton_inj.mp named⟩

theorem mem_yamlFiles_iff (distinct : tree.Distinct) :
    (location, content) ∈ yamlFiles tree ↔
      tree.node? location = some (.file content) ∧ IsYaml location := by
  rw [yamlFiles, Order.mem_sorted, List.mem_filter, FileTree.mem_files_iff distinct,
    isYamlLocation_iff]

/-- The order in which files are read. -/
def precedes (first second : List String × ByteArray) : Bool :=
  !second.1.lex first.1 fun a b => decide (a < b)

theorem precedes_trans (a b c : List String × ByteArray) (first : precedes a b)
    (second : precedes b c) : precedes a c := by
  simp only [precedes, Bool.not_eq_true'] at *
  exact List.lex_eq_false_iff_ge.mpr (List.le_trans (List.lex_eq_false_iff_ge.mp first)
    (List.lex_eq_false_iff_ge.mp second))

theorem precedes_total (a b : List String × ByteArray) : precedes a b ∨ precedes b a := by
  simp only [precedes, Bool.not_eq_true']
  exact (List.le_total a.1 b.1).imp List.lex_eq_false_iff_ge.mpr List.lex_eq_false_iff_ge.mpr

theorem yamlFiles_perm (tree : FileTree) :
    (yamlFiles tree).Perm (tree.files.filter fun entry => isYamlLocation entry.1) :=
  Order.sorted_perm _ _

theorem yamlFiles_locations_nodup (distinct : tree.Distinct) :
    ((yamlFiles tree).map Prod.fst).Nodup := by
  rw [((yamlFiles_perm tree).map Prod.fst).nodup_iff]
  exact (FileTree.locations_nodup distinct).sublist (List.filter_sublist.map Prod.fst)

theorem yamlFiles_ascending (distinct : tree.Distinct) :
    ((yamlFiles tree).map Prod.fst).Pairwise (List.Lex (· < ·)) := by
  have ordered : (yamlFiles tree).Pairwise fun first second => precedes first second :=
    Order.sorted_pairwise precedes_trans precedes_total _
  have different := List.pairwise_map.mp (yamlFiles_locations_nodup distinct)
  refine List.pairwise_map.mpr ((ordered.and different).imp ?_)
  intro first second both
  obtain ⟨atMost, unequal⟩ := both
  have trichotomous : Std.Trichotomous (List.Lex (· < · : String → String → Prop)) := inferInstance
  by_contra notBelow
  simp only [precedes, Bool.not_eq_true'] at atMost
  apply unequal (trichotomous.trichotomous _ _ notBelow _)
  intro above
  exact absurd (atMost.symm.trans (List.lex_eq_true_iff_lt.mpr above)) Bool.false_ne_true

/-- The order of the listings is lost when the files are sorted. -/
theorem yamlFiles_eq_of_relisted {other : FileTree} (distinct : tree.Distinct)
    (relisted : tree.Relisted other) : yamlFiles other = yamlFiles tree := by
  have permuted : (yamlFiles other).Perm (yamlFiles tree) :=
    (yamlFiles_perm other).trans
      ((relisted.symm.files_perm.filter _).trans (yamlFiles_perm tree).symm)
  have asymmetric : Std.Asymm (List.Lex (· < · : String → String → Prop)) := inferInstance
  refine permuted.eq_of_pairwise ?_
    (List.pairwise_map.mp (yamlFiles_ascending (relisted.distinct distinct)))
    (List.pairwise_map.mp (yamlFiles_ascending distinct))
  intro first second _ _ below above
  exact absurd above (asymmetric.asymm _ _ below)

/-- All files are read and their declarations are put together, or the first one that cannot be read
ends the reading. -/
inductive Loaded {α ε : Type} (read : α → Except ε Project) : List α → Except ε Project → Prop
  | all (files : List α) (parts : List Project) (project : Project) :
      List.Forall₂ (fun file part => read file = .ok part) files parts →
      project.models = parts.flatMap Project.models →
      project.metrics = parts.flatMap Project.metrics →
      project.rejected = parts.flatMap Project.rejected →
      Loaded read files (.ok project)
  | fails (before : List α) (file : α) (after : List α) (error : ε) :
      (∀ earlier ∈ before, ∃ part, read earlier = .ok part) → read file = .error error →
      Loaded read (before ++ file :: after) (.error error)

theorem foldl_append (parts : List Project) (start : Project) :
    (parts.foldl (· ++ ·) start).models = start.models ++ parts.flatMap Project.models ∧
      (parts.foldl (· ++ ·) start).metrics = start.metrics ++ parts.flatMap Project.metrics ∧
      (parts.foldl (· ++ ·) start).rejected = start.rejected ++ parts.flatMap Project.rejected := by
  induction parts generalizing start with
  | nil => simp
  | cons part rest ih =>
      obtain ⟨models, metrics, rejected⟩ := ih (start ++ part)
      simp [models, metrics, rejected]

theorem loaded_readAll (path : String) (files : List (List String × ByteArray)) :
    Loaded (fun file => readFile (file.1.foldl Path.join path) file.2) files (readAll path files) := by
  unfold readAll
  cases outcome : files.mapM fun file => readFile (file.1.foldl Path.join path) file.2 with
  | ok parts =>
      obtain ⟨models, metrics, rejected⟩ := foldl_append parts {}
      exact .all files parts _ (Attempt.mapM_eq_ok_iff.mp outcome) models metrics rejected
  | error error =>
      obtain ⟨before, file, after, rfl, failed, earlier⟩ := Attempt.mapM_eq_error_iff.mp outcome
      exact .fails before file after error earlier failed

end Source

open Source

variable {place : Place}

theorem Project.load_of_relisted {tree : FileTree} (relisted : place.tree.Relisted tree)
    (distinct : place.tree.Distinct) (path : String) :
    load { place with tree } path = load place path := by
  unfold load
  cases leads : place.find path with
  | error error =>
      cases again : Place.find { place with tree } path with
      | error other => rfl
      | ok other =>
          -- Back in the first order, the path would lead somewhere as well.
          have back : ({ place with tree } : Place).tree.Relisted place.tree := relisted.symm
          obtain ⟨found, returned, _⟩ := Place.find_of_relisted back (relisted.distinct distinct) again
          rw [leads] at returned
          cases returned
  | ok found =>
      obtain ⟨other, again, same⟩ := Place.find_of_relisted relisted distinct leads
      rw [again]
      have nodes := same.node_eq
      cases found with
      | file content =>
          cases other with
          | file otherContent =>
              cases nodes
              rfl
          | directory others => cases nodes
      | directory entries =>
          cases other with
          | file content => cases nodes
          | directory others =>
              have files := yamlFiles_eq_of_relisted (Place.distinct_of_find distinct leads) same
              simp only [files]

/-- Whatever the order in which the entries of directories are listed, loading gives the same result.
From a directory it reads each file of a right name once, at any depth, in the order of the locations
name by name, in which names compare by their bytes. -/
theorem load_ignores_listing_order (distinct : place.tree.Distinct) (path : String) :
    (∀ tree, place.tree.Relisted tree →
      Project.load { place with tree } path = Project.load place path) ∧
    ∀ entries, place.find path = .ok (.directory entries) →
      ∃ files : List (List String × ByteArray),
        (files.map Prod.fst).Pairwise (List.Lex Text.Before) ∧
        (∀ location content, (location, content) ∈ files ↔
          (FileTree.directory entries).node? location = some (.file content) ∧ IsYaml location) ∧
        Loaded (fun file => readFile (file.1.foldl Path.join path) file.2) files
          (Project.load place path) := by
  refine ⟨fun tree relisted => Project.load_of_relisted relisted distinct path, ?_⟩
  intro entries leads
  have below := Place.distinct_of_find distinct leads
  have order : List.Lex Text.Before = List.Lex (· < ·) := by
    congr
    funext first second
    exact propext Text.before_iff
  refine ⟨yamlFiles (.directory entries), ?_, fun _ _ => mem_yamlFiles_iff below, ?_⟩
  · rw [order]
    exact yamlFiles_ascending below
  · unfold Project.load
    rw [leads]
    exact loaded_readAll path _

/-- A note, and two files of declarations in a directory. -/
def Place.layer : Place :=
  { tree := .directory [
      ("notes.txt", .file "costs are estimates".toUTF8),
      ("models", .directory [
        ("orders.yml", .file "semantic_models: [{name: orders}]".toUTF8),
        ("costs.yaml", .file "semantic_models: [{name: costs}]".toUTF8)])] }

def FileTree.relistedLayer : FileTree :=
  .directory [
    ("models", .directory [
      ("costs.yaml", .file "semantic_models: [{name: costs}]".toUTF8),
      ("orders.yml", .file "semantic_models: [{name: orders}]".toUTF8)]),
    ("notes.txt", .file "costs are estimates".toUTF8)]

def Project.layer : Project := { models := [{ name := "costs" }, { name := "orders" }] }

/-- The costs are loaded first although the orders are listed first, and the note is left out. -/
theorem layer_listed_otherwise :
    Place.layer.tree.Distinct ∧ Place.layer.tree.Relisted .relistedLayer ∧
      Project.load .layer "." = .ok .layer ∧
      Project.load { Place.layer with tree := .relistedLayer } "." = .ok .layer ∧
      ∃ files : List (List String × ByteArray),
        (["models", "costs.yaml"], "semantic_models: [{name: costs}]".toUTF8) ∈ files ∧
        (["models", "orders.yml"], "semantic_models: [{name: orders}]".toUTF8) ∈ files ∧
        (∀ content, (["notes.txt"], content) ∉ files) ∧
        Loaded (fun file => readFile (file.1.foldl Path.join ".") file.2) files (.ok .layer) := by
  have distinct : Place.layer.tree.Distinct := by
    refine .directory _ (by decide) fun entry member => ?_
    rcases List.mem_pair.mp member with rfl | rfl
    · exact .file _
    · refine .directory _ (by decide) fun entry member => ?_
      rcases List.mem_pair.mp member with rfl | rfl <;> exact .file _
  have relisted : Place.layer.tree.Relisted .relistedLayer :=
    .trans (.inside [_] [] "models" (.listing (List.Perm.swap _ _ []))) (.listing (List.Perm.swap _ _ []))
  have located : Place.locate .layer "." = .ok [] :=
    Attempt.toOption_eq_some_iff.mp (by decide +kernel)
  have leads : Place.find .layer "." = .ok Place.layer.tree :=
    Place.find_eq_ok_iff.mpr ⟨[], located, rfl⟩
  have read : Project.load .layer "." = .ok .layer :=
    Attempt.toOption_eq_some_iff.mp (by decide +kernel)
  obtain ⟨same, reads⟩ := load_ignores_listing_order distinct "."
  obtain ⟨files, _, listed, loaded⟩ := reads _ leads
  rw [read] at loaded
  refine ⟨distinct, relisted, read, (same _ relisted).trans read, files, ?_, ?_, ?_, loaded⟩
  · exact (listed _ _).mpr ⟨rfl, ["models"], "costs", "yaml", by decide, .inr rfl, rfl⟩
  · exact (listed _ _).mpr ⟨rfl, ["models"], "orders", "yml", by decide, .inl rfl, rfl⟩
  · intro content member
    obtain ⟨_, yaml⟩ := (listed _ _).mp member
    exact absurd (isYamlLocation_iff.mpr yaml) (by decide +kernel)

end SemanticLayer
