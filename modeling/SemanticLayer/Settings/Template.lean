namespace SemanticLayer.Settings

/-! Texts with references `${NAME}` to variables of the environment. -/

/-- What every variable holds, if it is set. -/
abbrev Environment := String → Option String

inductive Part where
  | literal (c : Char)
  | reference (name : String)
deriving DecidableEq, Repr

def Part.variable? : Part → Option String
  | .literal _ => none
  | .reference name => some name

/-- Letters, digits and the underscore, in ASCII. -/
def isVariableChar (c : Char) : Bool := c.isAlphanum || c == '_'

/-- A name does not start with a digit. -/
def isVariableName (name : List Char) : Bool :=
  match name with
  | [] => false
  | c :: _ => !c.isDigit && name.all isVariableChar

/-- A reference at the head of a text, and what follows it. -/
def splitReference? : List Char → Option (List Char × List Char)
  | '$' :: '{' :: rest =>
      let name := rest.takeWhile isVariableChar
      match rest.dropWhile isVariableChar with
      | '}' :: after => if isVariableName name then some (name, after) else none
      | _ => none
  | _ => none

theorem splitReference?_shorter {text name after : List Char}
    (found : splitReference? text = some (name, after)) : after.length < text.length := by
  unfold splitReference? at found
  split at found
  · rename_i rest
    dsimp only at found
    split at found
    · rename_i tail dropped
      split at found
      · obtain ⟨rfl, rfl⟩ : _ ∧ _ := by simpa using found
        have shorter := (List.dropWhile_sublist (l := rest) isVariableChar).length_le
        rw [dropped] at shorter
        simp only [List.length_cons] at shorter ⊢
        omega
      · cases found
    · cases found
  · cases found

/-- A text as references and the characters that belong to none, from left to right. -/
def parts (text : List Char) : List Part :=
  match found : splitReference? text with
  | some (name, after) =>
      have : after.length < text.length := splitReference?_shorter found
      .reference (String.ofList name) :: parts after
  | none =>
      match text with
      | [] => []
      | c :: rest => .literal c :: parts rest
termination_by text.length

/-- The part with its variable's value; a variable that is not set is the error. -/
def Part.resolve (environment : Environment) : Part → Except String (List Char)
  | .literal c => .ok [c]
  | .reference name =>
      match environment name with
      | some value => .ok value.toList
      | none => .error name

/-- All references at once: what their values hold is not looked at again. The error is
the first variable that is not set. -/
def expand (environment : Environment) (text : String) : Except String String :=
  ((parts text.toList).mapM (Part.resolve environment)).map fun resolved =>
    String.ofList resolved.flatten

end SemanticLayer.Settings
