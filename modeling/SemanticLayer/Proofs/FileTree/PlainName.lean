import Mathlib.Data.String.Basic
import SemanticLayer.FileTree.Path
namespace SemanticLayer.Path

/-! Names without a slash.

Joined to the path of a directory, such a name is the last piece (`Path.exists_pieces_join`). -/

variable {path front name : String}

/-- The name is one piece of a path. -/
def IsPlain (name : String) : Prop := '/' ∉ name.toList

theorem pieces_eq (path : String) :
    pieces path = (path.toList.splitOnP (· == '/')).map String.ofList :=
  String.splitToList_of_valid path _

theorem pieces_of_plain (plain : IsPlain name) : pieces name = [name] := by
  have whole : name.toList.splitOnP (· == '/') = [name.toList] := by
    refine List.splitOnP_eq_singleton fun c member => ?_
    exact beq_eq_false_iff_ne.mpr fun same => plain (same ▸ member)
  rw [pieces_eq, whole, List.map_singleton, String.ofList_toList]

theorem pieces_append_slash (front name : String) :
    pieces (front ++ "/" ++ name) = pieces front ++ pieces name := by
  have chars : (front ++ "/" ++ name).toList = front.toList ++ '/' :: name.toList := by simp
  have parted : (front.toList ++ '/' :: name.toList).splitOnP (· == '/') =
      front.toList.splitOnP (· == '/') ++ name.toList.splitOnP (· == '/') :=
    List.splitOnP_append_cons _ _ rfl
  rw [pieces_eq, chars, parted, List.map_append, ← pieces_eq, ← pieces_eq]

theorem exists_of_endsWith_slash (ends : path.endsWith "/") : ∃ front, path = front ++ "/" := by
  rw [← String.endsWith_toSlice, String.Slice.endsWith_string_iff, String.copy_toSlice] at ends
  obtain ⟨front, whole⟩ := ends
  refine ⟨String.ofList front, String.toList_inj.mp ?_⟩
  rw [String.toList_append, String.toList_ofList, whole]

theorem isAbsolute_iff : isAbsolute path ↔ path.toList.head? = some '/' := by
  have single : "/".toList = ['/'] := rfl
  unfold isAbsolute
  rw [String.startsWith_string_iff, single]
  cases path.toList with
  | nil => simp
  | cons c rest => simp [List.cons_prefix_cons, eq_comm]

theorem not_isAbsolute_of_plain (plain : IsPlain name) : ¬ isAbsolute name := fun absolute =>
  plain (List.mem_of_head? (isAbsolute_iff.mp absolute))

theorem exists_join_eq_append {directory : String} (relative : ¬ isAbsolute name)
    (inhabited : directory ≠ "") : ∃ rest, join directory name = directory ++ rest := by
  unfold join
  rw [if_neg (by simp [relative, inhabited])]
  split
  · exact ⟨name, rfl⟩
  · exact ⟨"/" ++ name, String.append_assoc⟩

theorem isAbsolute_append (inhabited : front ≠ "") (rest : String) :
    isAbsolute (front ++ rest) = isAbsolute front := by
  rw [Bool.eq_iff_iff, isAbsolute_iff, isAbsolute_iff, String.toList_append,
    List.head?_append_of_ne_nil _ (by simpa using inhabited)]

/-- Below a directory a plain name is the last piece of its path, and the others are those of the
directory. -/
theorem exists_pieces_join (directory : String) (plain : IsPlain name) :
    ∃ front, pieces (join directory name) = front ++ [name] ∧
      (directory ≠ "" → pieces directory = front ∨ pieces directory = front ++ [""]) := by
  have relative := not_isAbsolute_of_plain plain
  unfold join
  by_cases empty : directory.isEmpty
  · rw [if_pos (by simp [empty]), pieces_of_plain plain]
    exact ⟨[], rfl, fun inhabited => absurd (String.isEmpty_iff.mp empty) inhabited⟩
  · rw [if_neg (by simp [relative, empty])]
    by_cases ends : directory.endsWith "/"
    · obtain ⟨front, rfl⟩ := exists_of_endsWith_slash ends
      rw [if_pos ends, pieces_append_slash, pieces_of_plain plain]
      have nothing : IsPlain "" := List.not_mem_nil
      have closed : pieces (front ++ "/") = pieces front ++ [""] := by
        rw [← pieces_of_plain nothing, ← pieces_append_slash, String.append_empty]
      exact ⟨pieces front, rfl, fun _ => .inr closed⟩
    · rw [if_neg ends, pieces_append_slash, pieces_of_plain plain]
      exact ⟨pieces directory, rfl, fun _ => .inl rfl⟩

end SemanticLayer.Path
