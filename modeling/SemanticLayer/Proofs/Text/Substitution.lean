import Mathlib.Data.List.TakeWhile
import SemanticLayer.Text.Identifier
namespace SemanticLayer.Text

/-! Substitution as one scan of the text.

`Rewritten` describes the scan by itself: identifiers are as long as they can be, what takes the
place of one is not scanned, and every other character stays. `rewritten_iff` says that substitution
does this and nothing else. -/

def StartsIdentifier (c : Char) : Prop :=
  ('A' ≤ c ∧ c ≤ 'Z') ∨ ('a' ≤ c ∧ c ≤ 'z') ∨ c = '_'

def ContinuesIdentifier (c : Char) : Prop := StartsIdentifier c ∨ ('0' ≤ c ∧ c ≤ '9')

/-- `written` comes out of a scan of `text` in which every identifier is `replaced`. -/
inductive Rewritten (replaced : List Char → List Char → Prop) : (text written : List Char) → Prop
  | nil : Rewritten replaced [] []
  | identifier {first run rest inserted written} : StartsIdentifier first →
      (∀ c ∈ run, ContinuesIdentifier c) → (∀ c, rest.head? = some c → ¬ ContinuesIdentifier c) →
      replaced (first :: run) inserted → Rewritten replaced rest written →
      Rewritten replaced (first :: run ++ rest) (inserted ++ written)
  | other {c rest written} : ¬ StartsIdentifier c → Rewritten replaced rest written →
      Rewritten replaced (c :: rest) (c :: written)

section Characters

variable {c : Char}

theorem isIdentifierStart_iff : isIdentifierStart c ↔ StartsIdentifier c := by
  delta isIdentifierStart Char.isAlpha Char.isUpper Char.isLower
  simp [StartsIdentifier, Char.le_def, or_assoc]

theorem isIdentifierRest_iff : isIdentifierRest c ↔ ContinuesIdentifier c := by
  rw [ContinuesIdentifier, ← isIdentifierStart_iff]
  simp [isIdentifierRest, isIdentifierStart, Char.isAlphanum, Char.isDigit, Char.le_def, or_right_comm]

end Characters

section Pieces

variable {c first : Char} {run rest name : List Char}

/-- An identifier that has begun takes in all characters that continue it. -/
theorem piecesFrom_append (begun : name ≠ []) (more : ∀ c ∈ run, ContinuesIdentifier c)
    (ended : ∀ c, rest.head? = some c → ¬ ContinuesIdentifier c) :
    piecesFrom name (run ++ rest) = .identifier (name.reverse ++ run) :: pieces rest := by
  induction run generalizing name with
  | nil =>
      cases rest with
      | nil => simp [piecesFrom, pieces, begun]
      | cons c rest =>
          have stops : ¬ isIdentifierRest c := fun more => ended c rfl (isIdentifierRest_iff.mp more)
          have apart : ¬ isIdentifierStart c :=
            fun start => ended c rfl (.inl (isIdentifierStart_iff.mp start))
          simp [piecesFrom, pieces, begun, stops, apart]
  | cons c run ih =>
      obtain ⟨next, others⟩ := List.forall_mem_cons.mp more
      have longer := ih (List.cons_ne_nil c name) others
      simpa [piecesFrom, begun, isIdentifierRest_iff.mpr next] using longer

theorem pieces_identifier (start : StartsIdentifier first) (more : ∀ c ∈ run, ContinuesIdentifier c)
    (ended : ∀ c, rest.head? = some c → ¬ ContinuesIdentifier c) :
    pieces (first :: run ++ rest) = .identifier (first :: run) :: pieces rest := by
  have begun := piecesFrom_append (List.cons_ne_nil first []) more ended
  simpa [pieces, piecesFrom, isIdentifierStart_iff.mpr start] using begun

theorem pieces_other (apart : ¬ StartsIdentifier c) : pieces (c :: rest) = .other c :: pieces rest := by
  rw [← isIdentifierStart_iff] at apart
  simp [pieces, piecesFrom, apart]

end Pieces

section Substitution

variable {meaning : List Char → Option (List Char)} {replaced : List Char → List Char → Prop}
  {text written : List Char}

theorem eq_substitute_of_rewritten
    (means : ∀ name inserted, replaced name inserted → inserted = (meaning name).getD name)
    (rewritten : Rewritten replaced text written) : written = substitute meaning text := by
  induction rewritten with
  | nil => rfl
  | identifier start more ended replaces _ ih =>
      rw [substitute, pieces_identifier start more ended, List.flatMap_cons, means _ _ replaces, ih]
      rfl
  | other apart _ ih =>
      rw [substitute, pieces_other apart, List.flatMap_cons, ih]
      rfl

/-- Where everything is replaced, a scan goes on to the end of the text. -/
theorem exists_rewritten (total : ∀ name, ∃ inserted, replaced name inserted) (text : List Char) :
    ∃ written, Rewritten replaced text written := by
  generalize size : text.length = bound
  induction bound using Nat.strongRecOn generalizing text with
  | ind bound ih =>
      cases text with
      | nil => exact ⟨[], .nil⟩
      | cons first rest =>
          by_cases start : StartsIdentifier first
          · -- The identifier goes on for as long as its characters do.
            have split := List.takeWhile_append_dropWhile (p := isIdentifierRest) (l := rest)
            have shorter : (rest.dropWhile isIdentifierRest).length < bound := by
              have within := (List.dropWhile_sublist isIdentifierRest (l := rest)).length_le
              rw [← size, List.length_cons]
              omega
            obtain ⟨written, scanned⟩ := ih _ shorter _ rfl
            obtain ⟨inserted, replaces⟩ := total (first :: rest.takeWhile isIdentifierRest)
            have more : ∀ c ∈ rest.takeWhile isIdentifierRest, ContinuesIdentifier c :=
              fun c member => isIdentifierRest_iff.mp (List.mem_takeWhile_imp member)
            have ended : ∀ c, (rest.dropWhile isIdentifierRest).head? = some c →
                ¬ ContinuesIdentifier c := by
              intro c next
              rw [← isIdentifierRest_iff]
              have stopped := List.head?_dropWhile_not isIdentifierRest rest
              simpa [next] using stopped
            have whole := Rewritten.identifier start more ended replaces scanned
            rw [List.cons_append, split] at whole
            exact ⟨_, whole⟩
          · obtain ⟨written, scanned⟩ := ih rest.length (by simp [← size]) rest rfl
            exact ⟨_, .other start scanned⟩

/-- What an identifier means stands in the text in its place. -/
theorem infix_substitute {name inserted : List Char} (named : .identifier name ∈ pieces text)
    (meant : meaning name = some inserted) : inserted <:+: substitute meaning text := by
  obtain ⟨before, after, split⟩ := List.append_of_mem named
  rw [substitute, split, List.flatMap_append, List.flatMap_cons]
  simp only [meant, Option.getD_some, ← List.append_assoc]
  exact List.infix_append ..

theorem rewritten_iff
    (means : ∀ name inserted, replaced name inserted ↔ inserted = (meaning name).getD name) :
    Rewritten replaced text written ↔ written = substitute meaning text := by
  have unique : ∀ written, Rewritten replaced text written → written = substitute meaning text :=
    fun written => eq_substitute_of_rewritten fun name inserted => (means name inserted).mp
  refine ⟨unique written, ?_⟩
  rintro rfl
  obtain ⟨written, scanned⟩ := exists_rewritten (fun name => ⟨_, (means name _).mpr rfl⟩) text
  rwa [← unique written scanned]

end Substitution

end SemanticLayer.Text
