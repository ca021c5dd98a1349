import SemanticLayer.Proofs.Attempt
import SemanticLayer.Proofs.Text.Substitution
import SemanticLayer.Settings
namespace SemanticLayer.Settings

/-! Expansion as one scan of the text.

`Scanned` describes the scan by itself. It finds exactly the references that stand in the text
(`reference_mem_iff`): two of them cannot overlap, so none is hidden by another one. -/

/-- A letter or an underscore, then letters, underscores and digits. -/
def IsVariable (spelled : List Char) : Prop :=
  ∃ first others, spelled = first :: others ∧ Text.StartsIdentifier first ∧
    ∀ c ∈ others, Text.ContinuesIdentifier c

def referenceTo (spelled : List Char) : List Char := '$' :: '{' :: (spelled ++ ['}'])

/-- The text from left to right: a reference wherever one begins, and else the next character. -/
inductive Scanned : List Char → List Part → Prop
  | nil : Scanned [] []
  | reference {name rest scanned} : IsVariable name.toList → Scanned rest scanned →
      Scanned (referenceTo name.toList ++ rest) (.reference name :: scanned)
  | literal {c rest scanned} : (∀ spelled, IsVariable spelled → ¬ referenceTo spelled <+: c :: rest) →
      Scanned rest scanned → Scanned (c :: rest) (.literal c :: scanned)

variable {environment : Environment} {name : String} {c : Char} {spelled text rest : List Char}
  {scanned : List Part}

theorem startsIdentifier_iff : Text.StartsIdentifier c ↔ c.isDigit = false ∧ Text.ContinuesIdentifier c := by
  have digit : c.isDigit = true ↔ '0' ≤ c ∧ c ≤ '9' := by
    simp [Char.isDigit, Char.le_def]
  rw [← Bool.not_eq_true, digit]
  constructor
  · intro starts
    refine ⟨?_, .inl starts⟩
    rintro ⟨lower, upper⟩
    rcases starts with ⟨above, _⟩ | ⟨above, _⟩ | rfl
    · exact absurd (Char.le_trans above upper) (by decide)
    · exact absurd (Char.le_trans above upper) (by decide)
    · exact absurd upper (by decide)
  · rintro ⟨noDigit, starts | isDigit⟩
    · exact starts
    · exact absurd isDigit noDigit

theorem isVariableName_iff : isVariableName spelled ↔ IsVariable spelled := by
  have more : ∀ c, isVariableChar c = true ↔ Text.ContinuesIdentifier c :=
    fun c => Text.isIdentifierRest_iff
  cases spelled with
  | nil => simp [isVariableName, IsVariable]
  | cons first others =>
      simp [isVariableName, IsVariable, startsIdentifier_iff, more, and_assoc]

theorem IsVariable.isVariableChar (named : IsVariable spelled) :
    ∀ c ∈ spelled, isVariableChar c = true := by
  obtain ⟨first, others, rfl, start, more⟩ := named
  refine List.forall_mem_cons.mpr ⟨?_, fun c member => ?_⟩
  · exact Text.isIdentifierRest_iff.mpr (.inl start)
  · exact Text.isIdentifierRest_iff.mpr (more c member)

theorem splitReference?_referenceTo (named : IsVariable spelled) (rest : List Char) :
    splitReference? (referenceTo spelled ++ rest) = some (spelled, rest) := by
  have inside := named.isVariableChar
  have closing : Settings.isVariableChar '}' = false := by decide
  simp [splitReference?, referenceTo, List.takeWhile_append_of_pos inside,
    List.dropWhile_append_of_pos inside, closing, isVariableName_iff.mpr named]

theorem splitReference?_eq_some_iff :
    splitReference? text = some (spelled, rest) ↔
      IsVariable spelled ∧ text = referenceTo spelled ++ rest := by
  constructor
  · intro found
    unfold splitReference? at found
    split at found
    · rename_i inside
      dsimp only at found
      split at found
      · rename_i after closed
        split at found
        · rename_i valid
          cases found
          have whole := List.takeWhile_append_dropWhile (p := isVariableChar) (l := inside)
          rw [closed] at whole
          exact ⟨isVariableName_iff.mp valid, by simp [referenceTo, whole]⟩
        · cases found
      · cases found
    · cases found
  · rintro ⟨named, rfl⟩
    exact splitReference?_referenceTo named rest

theorem splitReference?_eq_none_iff :
    splitReference? text = none ↔ ∀ spelled, IsVariable spelled → ¬ referenceTo spelled <+: text := by
  rw [Option.eq_none_iff_forall_ne_some]
  constructor
  · intro absent spelled named starts
    obtain ⟨rest, whole⟩ := starts
    exact absent (spelled, rest) (splitReference?_eq_some_iff.mpr ⟨named, whole.symm⟩)
  · rintro absent ⟨spelled, rest⟩ found
    obtain ⟨named, whole⟩ := splitReference?_eq_some_iff.mp found
    exact absent spelled named ⟨rest, whole.symm⟩

theorem parts_referenceTo (named : IsVariable name.toList) (rest : List Char) :
    parts (referenceTo name.toList ++ rest) = .reference name :: parts rest := by
  rw [parts]
  split
  · rename_i spelled after found
    rw [splitReference?_referenceTo named] at found
    cases found
    rw [String.ofList_toList]
  · rename_i absent
    rw [splitReference?_referenceTo named] at absent
    cases absent

theorem parts_cons_literal (absent : splitReference? (c :: rest) = none) :
    parts (c :: rest) = .literal c :: parts rest := by
  rw [parts]
  split
  · rename_i found
    rw [absent] at found
    cases found
  · rfl

theorem scanned_parts (text : List Char) : Scanned text (parts text) := by
  fun_induction parts text with
  | case1 text spelled after found shorter ih =>
      obtain ⟨named, rfl⟩ := splitReference?_eq_some_iff.mp found
      have same := String.toList_ofList (l := spelled)
      rw [← same] at named
      have whole := Scanned.reference named ih
      rwa [same] at whole
  | case2 => exact .nil
  | case3 c rest absent ih => exact .literal (splitReference?_eq_none_iff.mp absent) ih

theorem scanned_iff : Scanned text scanned ↔ scanned = parts text := by
  constructor
  · intro scan
    induction scan with
    | nil => rw [parts]; rfl
    | reference named _ ih => rw [parts_referenceTo named, ih]
    | literal absent _ ih => rw [parts_cons_literal (splitReference?_eq_none_iff.mpr absent), ih]
  · rintro rfl
    exact scanned_parts text

theorem isVariable_of_mem (scan : Scanned text scanned) (member : .reference name ∈ scanned) :
    IsVariable name.toList := by
  induction scan with
  | nil => cases member
  | reference named _ ih =>
      rcases List.mem_cons.mp member with same | later
      · cases same
        exact named
      · exact ih later
  | literal _ _ ih =>
      rcases List.mem_cons.mp member with same | later
      · cases same
      · exact ih later

/-- A reference begins with the only `$` in it. -/
theorem referenceTo_infix_append_iff {front : List Char} (apart : '$' ∉ front) :
    referenceTo spelled <:+: front ++ rest ↔ referenceTo spelled <:+: rest := by
  induction front with
  | nil => rfl
  | cons c front ih =>
      obtain ⟨here, later⟩ := List.ne_and_not_mem_of_not_mem_cons apart
      have elsewhere : ¬ referenceTo spelled <+: c :: (front ++ rest) :=
        fun starts => here (List.cons_prefix_cons.mp starts).1
      rw [List.cons_append, List.infix_cons_iff, ih later]
      exact or_iff_right elsewhere

theorem referenceTo_prefix_iff {other : List Char} (named : IsVariable spelled) (otherNamed : IsVariable other) :
    referenceTo spelled <+: referenceTo other ++ rest ↔ spelled = other := by
  constructor
  · intro starts
    obtain ⟨behind, whole⟩ := starts
    have found := splitReference?_referenceTo named behind
    rw [whole, splitReference?_referenceTo otherNamed rest] at found
    cases found
    rfl
  · rintro rfl
    exact List.prefix_append ..

theorem IsVariable.dollar_not_mem (named : IsVariable spelled) : '$' ∉ spelled :=
  fun member => absurd (named.isVariableChar _ member) (by decide)

theorem mem_iff_occurs (scan : Scanned text scanned) (named : IsVariable name.toList) :
    .reference name ∈ scanned ↔ referenceTo name.toList <:+: text := by
  induction scan with
  | nil => simp [referenceTo]
  | @reference other rest scanned otherNamed _ ih =>
      have apart : '$' ∉ '{' :: (other.toList ++ ['}']) := by
        simp [otherNamed.dollar_not_mem]
      have first : Part.reference name = .reference other ↔
          referenceTo name.toList <+: referenceTo other.toList ++ rest := by
        rw [referenceTo_prefix_iff named otherNamed, String.toList_inj, Part.reference.injEq]
      -- An occurrence that does not begin where this reference does lies behind it.
      rw [List.mem_cons, ih, first, ← referenceTo_infix_append_iff apart]
      exact List.infix_cons_iff.symm
  | literal absent _ ih =>
      rw [List.mem_cons, ih, List.infix_cons_iff, or_iff_right (absent _ named)]
      simp

theorem reference_mem_iff (scan : Scanned text scanned) :
    .reference name ∈ scanned ↔ IsVariable name.toList ∧ referenceTo name.toList <:+: text := by
  constructor
  · intro member
    have named := isVariable_of_mem scan member
    exact ⟨named, (mem_iff_occurs scan named).mp member⟩
  · rintro ⟨named, occurs⟩
    exact (mem_iff_occurs scan named).mpr occurs

namespace Part

def written : Part → List Char
  | .literal c => [c]
  | .reference name => referenceTo name.toList

/-- A variable that is not set leaves nothing. -/
def filled (environment : Environment) : Part → List Char
  | .literal c => [c]
  | .reference name => ((environment name).getD "").toList

end Part

theorem flatMap_written (scan : Scanned text scanned) : scanned.flatMap Part.written = text := by
  induction scan with
  | nil => rfl
  | reference _ _ ih => rw [List.flatMap_cons, ih]; rfl
  | literal _ _ ih => rw [List.flatMap_cons, ih]; rfl

/-- Of the variables that are referred to, the first one that is not set. -/
def firstUnset? (environment : Environment) (scanned : List Part) : Option String :=
  (scanned.filterMap Part.variable?).find? fun name => (environment name).isNone

theorem mem_variables_iff : name ∈ scanned.filterMap Part.variable? ↔ .reference name ∈ scanned := by
  rw [List.mem_filterMap]
  constructor
  · rintro ⟨part, member, same⟩
    cases part with
    | literal c => cases same
    | reference other =>
        cases same
        exact member
  · exact fun member => ⟨_, member, rfl⟩

theorem firstUnset?_eq_none_iff :
    firstUnset? environment scanned = none ↔
      ∀ name, .reference name ∈ scanned → ∃ value, environment name = some value := by
  simp only [firstUnset?, List.find?_eq_none, mem_variables_iff, Bool.not_eq_true, Option.isNone_eq_false_iff,
    Option.isSome_iff_exists]

theorem firstUnset?_cons_unset (unset : environment name = none) (rest : List Part) :
    firstUnset? environment (.reference name :: rest) = some name := by
  simp [firstUnset?, Part.variable?, unset]

theorem firstUnset?_cons_set {value : String} (set : environment name = some value) (rest : List Part) :
    firstUnset? environment (.reference name :: rest) = firstUnset? environment rest := by
  simp [firstUnset?, Part.variable?, set]

theorem mapM_resolve (environment : Environment) (scanned : List Part) :
    scanned.mapM (Part.resolve environment) =
      match firstUnset? environment scanned with
      | some name => .error name
      | none => .ok (scanned.map (Part.filled environment)) := by
  induction scanned with
  | nil => rfl
  | cons part rest ih =>
      rw [List.mapM_cons, ih]
      cases part with
      | literal c =>
          have same : firstUnset? environment (.literal c :: rest) = firstUnset? environment rest := rfl
          rw [same]
          cases firstUnset? environment rest <;> rfl
      | reference name =>
          cases holds : environment name with
          | none =>
              rw [firstUnset?_cons_unset holds, Part.resolve, holds]
              rfl
          | some value =>
              have filled : Part.filled environment (.reference name) = value.toList := by
                rw [Part.filled, holds, Option.getD_some]
              rw [firstUnset?_cons_set holds, List.map_cons, filled, Part.resolve, holds]
              cases firstUnset? environment rest <;> rfl

theorem resolve_eq (environment : Environment) (text : String) :
    resolve environment text =
      match firstUnset? environment (parts text.toList) with
      | some name => .error (.missingVariable name)
      | none => .ok (String.ofList ((parts text.toList).flatMap (Part.filled environment))) := by
  rw [resolve, expand, mapM_resolve]
  cases firstUnset? environment (parts text.toList) <;> rfl

/-- The text is scanned once, in the only way there is, and all references in it are found. Every
variable they name is needed, and what it holds is not scanned. -/
theorem expanded_in_one_pass (environment : Environment) (text : String) :
    ∃ scanned, (∀ other, Scanned text.toList other ↔ other = scanned) ∧
      scanned.flatMap Part.written = text.toList ∧
      (∀ name, .reference name ∈ scanned ↔
        IsVariable name.toList ∧ referenceTo name.toList <:+: text.toList) ∧
      resolve environment text =
        match firstUnset? environment scanned with
        | some name => .error (.missingVariable name)
        | none => .ok (String.ofList (scanned.flatMap (Part.filled environment))) := by
  have scan := scanned_parts text.toList
  exact ⟨parts text.toList, fun _ => scanned_iff, flatMap_written scan, fun _ => reference_mem_iff scan,
    resolve_eq environment text⟩

-- What is inserted is not scanned, and neither a digit nor an open brace makes a reference.
example : (resolve (fun _ => some "$\x7bB\x7d") "$$\x7bA\x7d $\x7b1\x7d $\x7bA").toOption =
    some "$$\x7bB\x7d $\x7b1\x7d $\x7bA" := by
  decide +kernel

end SemanticLayer.Settings
