import SemanticLayer.Generation
import SemanticLayer.Proofs.LookML.Record
import SemanticLayer.Proofs.Sha256
import SemanticLayer.Proofs.Text.ByteOrder
namespace SemanticLayer

/-! What a fingerprint stands for.

The text that is digested shows all views and explores, so two outputs that differ in one of them
have the same fingerprint only if two different messages have the same digest. -/

/-- The text under the digest. -/
def Output.recorded (output : Output) : String :=
  (LookML.record output.views output.explores).compactText

theorem recorded_eq_iff {output other : Output} :
    output.recorded = other.recorded ↔ output.views = other.views ∧ output.explores = other.explores := by
  rw [Output.recorded, Output.recorded, Json.compactText_injective.eq_iff, LookML.record_inj]

theorem fingerprint_eq (output : Output) :
    output.fingerprint = Sha256.hexDigest (Text.bytes output.recorded) := by
  rw [Output.fingerprint, Output.recorded, Text.toList_toUTF8]

/-- Which metrics were anchored where, and what was diagnosed, is not digested. -/
theorem fingerprint_covers_output (output other : Output) :
    output.fingerprint = Sha256.hexDigest (Text.bytes output.recorded) ∧
    (output.recorded = other.recorded ↔ output.views = other.views ∧ output.explores = other.explores) ∧
    (output.fingerprint = other.fingerprint ↔
      (output.views = other.views ∧ output.explores = other.explores) ∨
        Sha256.Collision (Text.bytes output.recorded) (Text.bytes other.recorded)) := by
  refine ⟨fingerprint_eq output, recorded_eq_iff, ?_⟩
  rw [fingerprint_eq, fingerprint_eq, Sha256.hexDigest_eq_iff, ← recorded_eq_iff, Sha256.Collision,
    Text.bytes_injective.ne_iff]
  constructor
  · intro same
    by_cases text : output.recorded = other.recorded
    · exact .inl text
    · exact .inr ⟨text, same⟩
  · rintro (text | ⟨_, same⟩)
    · rw [text]
    · exact same

end SemanticLayer
