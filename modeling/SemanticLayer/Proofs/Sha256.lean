import Mathlib.Algebra.Group.Nat.Defs
import SemanticLayer.Sha256
namespace SemanticLayer.Sha256

/-! Digests in hexadecimal digits are told apart as the digests are. -/

variable {first second : UInt32}

/-- Two messages with one digest. -/
def Collision (message other : List UInt8) : Prop := message ≠ other ∧ digest message = digest other

theorem toNat_nibble (word shift : UInt32) (small : shift.toNat < 32) :
    ((word >>> shift) &&& 15).toNat = word.toNat / 2 ^ shift.toNat % 16 := by
  have mask : ∀ value : Nat, value &&& 15 = value % 16 := fun value => Nat.and_two_pow_sub_one_eq_mod value 4
  rw [UInt32.toNat_and, UInt32.toNat_shiftRight, Nat.mod_eq_of_lt small, Nat.shiftRight_eq_div_pow]
  exact mask _

theorem hexDigit_inj_of_lt (firstSmall : first.toNat < 16) (secondSmall : second.toNat < 16)
    (same : hexDigit first = hexDigit second) : first.toNat = second.toNat := by
  have apart : ∀ m < 16, ∀ n < 16, "0123456789abcdef".toList.getD m '0' = "0123456789abcdef".toList.getD n '0' →
      m = n := by
    decide
  exact apart _ firstSmall _ secondSmall same

theorem nibble_eq_of_hexDigit_eq {shift : UInt32} (small : shift.toNat < 32)
    (same : hexDigit ((first >>> shift) &&& 15) = hexDigit ((second >>> shift) &&& 15)) :
    first.toNat / 2 ^ shift.toNat % 16 = second.toNat / 2 ^ shift.toNat % 16 := by
  have below : ∀ word : UInt32, ((word >>> shift) &&& 15).toNat < 16 := by
    intro word
    rw [toNat_nibble word shift small]
    exact Nat.mod_lt _ (by decide)
  have digits := hexDigit_inj_of_lt (below first) (below second) same
  rwa [toNat_nibble first shift small, toNat_nibble second shift small] at digits

theorem eq_of_nibbles (count : Nat) : ∀ {value other : Nat}, value < 16 ^ count → other < 16 ^ count →
    (∀ place < count, value / 16 ^ place % 16 = other / 16 ^ place % 16) → value = other := by
  induction count with
  | zero =>
      intro value other bound otherBound _
      omega
  | succ count ih =>
      intro value other bound otherBound same
      have last := same 0 (Nat.succ_pos count)
      have others : value / 16 = other / 16 := by
        refine ih ?_ ?_ fun place within => ?_
        · exact Nat.div_lt_of_lt_mul (by rwa [← Nat.pow_succ'])
        · exact Nat.div_lt_of_lt_mul (by rwa [← Nat.pow_succ'])
        · rw [Nat.div_div_eq_div_mul, Nat.div_div_eq_div_mul, ← Nat.pow_succ']
          exact same (place + 1) (Nat.succ_lt_succ within)
      omega

theorem hexWord_injective : Function.Injective hexWord := by
  intro first second same
  have each : ∀ shift ∈ ([28, 24, 20, 16, 12, 8, 4, 0] : List UInt32), shift.toNat < 32 →
      first.toNat / 2 ^ shift.toNat % 16 = second.toNat / 2 ^ shift.toNat % 16 :=
    fun shift member small => nibble_eq_of_hexDigit_eq small (List.map_inj_left.mp same shift member)
  refine UInt32.toNat_inj.mp (eq_of_nibbles 8 first.toNat_lt second.toNat_lt fun place within => ?_)
  match place, within with
  | 0, _ => exact each 0 (by decide) (by decide)
  | 1, _ => exact each 4 (by decide) (by decide)
  | 2, _ => exact each 8 (by decide) (by decide)
  | 3, _ => exact each 12 (by decide) (by decide)
  | 4, _ => exact each 16 (by decide) (by decide)
  | 5, _ => exact each 20 (by decide) (by decide)
  | 6, _ => exact each 24 (by decide) (by decide)
  | 7, _ => exact each 28 (by decide) (by decide)

theorem flatMap_hexWord_injective : Function.Injective (List.flatMap hexWord) := by
  intro words others same
  have width : ∀ word, (hexWord word).length = 8 := fun _ => rfl
  induction words generalizing others with
  | nil =>
      cases others with
      | nil => rfl
      | cons other others => cases same
  | cons word words ih =>
      cases others with
      | nil => cases same
      | cons other others =>
          rw [List.flatMap_cons, List.flatMap_cons] at same
          obtain ⟨first, later⟩ := List.append_inj same ((width word).trans (width other).symm)
          rw [hexWord_injective first, ih later]

theorem hexDigest_eq_iff {message other : List UInt8} :
    hexDigest message = hexDigest other ↔ digest message = digest other := by
  rw [hexDigest, hexDigest, String.ofList_inj, flatMap_hexWord_injective.eq_iff]

end SemanticLayer.Sha256
