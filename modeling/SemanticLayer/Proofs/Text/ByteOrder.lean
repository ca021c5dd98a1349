import Mathlib.Data.List.Lex
import SemanticLayer.Order.SortedSet
namespace SemanticLayer.Text

/-! Texts compare as their bytes do.

The encoding of characters keeps their order, and no code is the beginning of another one, so the
first character in which two texts differ decides about their bytes as well. -/

/-- The bytes of a text in UTF-8. -/
def bytes (text : String) : List UInt8 := text.toUTF8.data.toList

/-- `first` comes before `second`, byte by byte. -/
def Before (first second : String) : Prop := List.Lex (· < ·) (bytes first) (bytes second)

theorem bytes_eq (text : String) : bytes text = text.toList.flatMap String.utf8EncodeChar := by
  unfold bytes String.toUTF8
  rw [← String.utf8Encode_toList, List.utf8Encode, List.data_toByteArray]

theorem bytes_injective : Function.Injective bytes := by
  intro first second same
  exact String.toByteArray_inj.mp (ByteArray.ext (Array.toList_inj.mp same))

theorem toList_loop (content : ByteArray) (index : Nat) (sofar : List UInt8) :
    ByteArray.toList.loop content index sofar = sofar.reverse ++ content.data.toList.drop index := by
  fun_induction ByteArray.toList.loop content index sofar with
  | case1 index sofar within ih =>
      have inside : index < content.data.toList.length := within
      have here : content.get! index = content.data.toList[index] := getElem!_pos content.data index within
      rw [ih, List.drop_eq_getElem_cons inside, here]
      simp
  | case2 index sofar beyond =>
      have past : content.data.toList.length ≤ index := Nat.le_of_not_lt beyond
      rw [List.drop_eq_nil_of_le past, List.append_nil]

theorem toList_toUTF8 (text : String) : text.toUTF8.toList = bytes text := by
  rw [ByteArray.toList, toList_loop, List.reverse_nil, List.nil_append, List.drop_zero, bytes]

theorem lex_cons_of_le {first second : Nat} {firstRest secondRest : List UInt8} (bound : second < 256)
    (atMost : first ≤ second) (later : first = second → List.Lex (· < ·) firstRest secondRest) :
    List.Lex (· < ·) (UInt8.ofNat first :: firstRest) (UInt8.ofNat second :: secondRest) := by
  rcases Nat.lt_or_eq_of_le atMost with below | same
  · exact .rel ((UInt8.ofNat_lt_iff_lt (Nat.lt_trans below bound) bound).mpr below)
  · exact same ▸ .cons (later same)

theorem lex_utf8EncodeChar {first second : Char} (below : first < second)
    (firstRest secondRest : List UInt8) :
    List.Lex (· < ·) (String.utf8EncodeChar first ++ firstRest)
      (String.utf8EncodeChar second ++ secondRest) := by
  have order : first.val.toNat < second.val.toNat := below
  have limit : second.val.toNat < 1114112 := by
    rcases second.valid with low | high
    · omega
    · exact high.2
  unfold String.utf8EncodeChar
  generalize first.val.toNat = low at order
  generalize second.val.toNat = high at order limit
  simp only []
  -- Byte by byte the smaller code is not above the other, and they cannot agree in all bytes.
  split_ifs <;> simp only [List.cons_append, List.nil_append]
  all_goals
    repeat refine lex_cons_of_le (by omega) (by omega) fun _ => ?_
    exfalso
    omega

theorem lex_flatMap_utf8EncodeChar {first second : List Char} (below : List.Lex (· < ·) first second) :
    List.Lex (· < ·) (first.flatMap String.utf8EncodeChar) (second.flatMap String.utf8EncodeChar) := by
  induction below with
  | @nil head rest =>
      rw [List.flatMap_nil, List.flatMap_cons]
      cases code : String.utf8EncodeChar head with
      | nil => exact absurd code String.utf8EncodeChar_ne_nil
      | cons byte others => exact .nil
  | cons _ ih =>
      rw [List.flatMap_cons, List.flatMap_cons]
      exact List.Lex.append_left _ ih _
  | rel below =>
      rw [List.flatMap_cons, List.flatMap_cons]
      exact lex_utf8EncodeChar below _ _

theorem before_iff {first second : String} : Before first second ↔ first < second := by
  have forward : ∀ {first second : String}, first < second → Before first second := by
    intro first second below
    unfold Before
    rw [bytes_eq, bytes_eq]
    exact lex_flatMap_utf8EncodeChar below
  refine ⟨fun before => ?_, forward⟩
  have asymmetric : Std.Asymm (List.Lex (· < · : UInt8 → UInt8 → Prop)) := inferInstance
  rcases Order.StrictOrder.connected first second with below | same | above
  · exact below
  · rw [same] at before
    exact absurd before (asymmetric.asymm _ _ before)
  · exact absurd before (asymmetric.asymm _ _ (forward above))

end SemanticLayer.Text
