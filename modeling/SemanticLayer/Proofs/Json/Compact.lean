import Mathlib.Data.List.TakeWhile
import SemanticLayer.Json
import SemanticLayer.Number.Numeral
namespace SemanticLayer.Json

/-! Values are told apart by their compact form.

What is written can be cut off from what stands behind it, in one way only (`CutOff`): a character
by its escape, a text by its closing quote, a number by its last digit, and an array or an object by
its closing bracket. -/

variable {c : Char} {text other : List Char} {rest behind : List Char}

/-- No digit comes next, so that a number cannot go on. -/
def Ended (rest : List Char) : Prop := ∀ c, rest.head? = some c → c.isDigit = false

theorem ended_nil : Ended [] := nofun

theorem ended_cons (noDigit : c.isDigit = false) (rest : List Char) : Ended (c :: rest) := by
  intro first here
  cases here
  exact noDigit

/-- Text that begins with the written item begins with no other one. -/
def CutOff (encode : α → List Char) (item : α) : Prop :=
  ∀ other rest behind, Ended rest → Ended behind → encode item ++ rest = encode other ++ behind →
    item = other ∧ rest = behind

@[induction_eliminator]
theorem induct {motive : Json → Prop} (null : motive .null) (bool : ∀ value, motive (.bool value))
    (number : ∀ value, motive (.number value)) (string : ∀ value, motive (.string value))
    (array : ∀ items, (∀ item ∈ items, motive item) → motive (.array items))
    (object : ∀ fields, (∀ entry ∈ fields, motive entry.2) → motive (.object fields)) :
    ∀ json, motive json
  | .null => null
  | .bool value => bool value
  | .number value => number value
  | .string value => string value
  | .array items => array items fun item _ => induct null bool number string array object item
  | .object fields => object fields fun entry _ => induct null bool number string array object entry.2
termination_by json => json
decreasing_by
  · decreasing_tactic
  · rename_i inside
    have smaller := List.sizeOf_lt_of_mem inside
    cases entry
    simp only [Prod.mk.sizeOf_spec, Json.object.sizeOf_spec] at smaller ⊢
    omega

/-- The character at the head of a text in quotes, and what follows it. -/
def readChar? : List Char → Option (Char × List Char)
  | [] => none
  | '"' :: _ => none
  | '\\' :: 'n' :: rest => some ('\n', rest)
  | '\\' :: 'r' :: rest => some ('\r', rest)
  | '\\' :: 't' :: rest => some ('\t', rest)
  | '\\' :: 'b' :: rest => some ('\x08', rest)
  | '\\' :: 'f' :: rest => some ('\x0c', rest)
  | '\\' :: 'u' :: _ :: _ :: high :: low :: rest => do
      let code := 16 * (← Number.digitValue? 16 high) + (← Number.digitValue? 16 low)
      return (Char.ofNat code, rest)
  | '\\' :: c :: rest => some (c, rest)
  | c :: rest => some (c, rest)

theorem digitValue?_hexDigit : ∀ value < 16, Number.digitValue? 16 (hexDigit value) = some value := by
  decide

theorem readChar?_escapeChar (c : Char) (rest : List Char) :
    readChar? (escapeChar c ++ rest) = some (c, rest) := by
  unfold escapeChar
  split
  · rfl
  · rfl
  · rfl
  · rfl
  · rfl
  · rfl
  · rfl
  · rename_i noQuote noBackslash _ _ _ _ _
    split
    · rename_i control
      have high := digitValue?_hexDigit (c.toNat / 16) (by omega)
      have low := digitValue?_hexDigit (c.toNat % 16) (by omega)
      simp [readChar?, high, low, Nat.div_add_mod, Char.ofNat_toNat]
    · have plain : readChar? (c :: rest) = some (c, rest) := by
        rw [readChar?.eq_def]
        split <;> simp_all
      exact plain

theorem escaped_append_inj
    (same : text.flatMap escapeChar ++ '"' :: rest = other.flatMap escapeChar ++ '"' :: behind) :
    text = other ∧ rest = behind := by
  have closed : ∀ rest, readChar? ('"' :: rest) = none := fun _ => rfl
  have first := congrArg readChar? same
  induction text generalizing other with
  | nil =>
      cases other with
      | nil => exact ⟨rfl, List.tail_eq_of_cons_eq same⟩
      | cons d other =>
          rw [List.flatMap_cons, List.append_assoc, readChar?_escapeChar] at first
          exact absurd first (by simp [closed])
  | cons c text ih =>
      rw [List.flatMap_cons, List.append_assoc] at same first
      cases other with
      | nil =>
          rw [readChar?_escapeChar] at first
          exact absurd first (by simp [closed])
      | cons d other =>
          rw [List.flatMap_cons, List.append_assoc, readChar?_escapeChar, readChar?_escapeChar] at first
          obtain ⟨rfl, later⟩ := Prod.mk.inj (Option.some.inj first)
          obtain ⟨rfl, ends⟩ := ih later (congrArg readChar? later)
          exact ⟨rfl, ends⟩

theorem cutOff_quoted (text : String) : CutOff quoted text := by
  intro other rest behind _ _ same
  simp only [quoted, List.cons_append, List.append_assoc, List.cons.injEq, true_and] at same
  obtain ⟨characters, ends⟩ := escaped_append_inj same
  exact ⟨String.toList_inj.mp characters, ends⟩

theorem takeWhile_toDigits_append (magnitude : Nat) (ended : Ended rest) :
    (Nat.toDigits 10 magnitude ++ rest).takeWhile Char.isDigit = Nat.toDigits 10 magnitude := by
  have digits : ∀ c ∈ Nat.toDigits 10 magnitude, c.isDigit = true :=
    fun c member => Nat.isDigit_of_mem_toDigits (by decide) (by decide) member
  have stops : rest.takeWhile Char.isDigit = [] := by
    cases rest with
    | nil => rfl
    | cons c rest => exact List.takeWhile_cons_of_neg (by simp [ended c rfl])
  rw [List.takeWhile_append_of_pos digits, stops, List.append_nil]

theorem cutOff_toDigits (magnitude : Nat) : CutOff (Nat.toDigits 10) magnitude := by
  intro other rest behind ended otherEnded same
  have digits := congrArg (List.takeWhile Char.isDigit) same
  rw [takeWhile_toDigits_append magnitude ended, takeWhile_toDigits_append other otherEnded] at digits
  have value := congrArg (Nat.ofDigitChars 10 · 0) digits
  simp only [Nat.ofDigitChars_ten_toDigits] at value
  subst value
  exact ⟨rfl, List.append_cancel_left same⟩

theorem exists_digit_toDigits (magnitude : Nat) (rest : List Char) :
    ∃ c others, Nat.toDigits 10 magnitude ++ rest = c :: others ∧ c.isDigit = true := by
  cases digits : Nat.toDigits 10 magnitude with
  | nil => exact absurd digits Nat.toDigits_ne_nil
  | cons c others =>
      refine ⟨c, others ++ rest, rfl, ?_⟩
      exact Nat.isDigit_of_mem_toDigits (by decide) (by decide) (digits ▸ List.mem_cons_self ..)

theorem cutOff_integer (value : Int) : CutOff integer value := by
  intro other rest behind ended otherEnded same
  have unsigned : ∀ magnitude (front back : List Char), Nat.toDigits 10 magnitude ++ front ≠ '-' :: back := by
    intro magnitude front back signed
    obtain ⟨c, others, whole, digit⟩ := exists_digit_toDigits magnitude front
    cases whole.symm.trans signed
    exact absurd digit (by decide)
  cases value with
  | ofNat magnitude =>
      cases other with
      | ofNat otherMagnitude =>
          obtain ⟨rfl, ends⟩ := cutOff_toDigits magnitude _ _ _ ended otherEnded same
          exact ⟨rfl, ends⟩
      | negSucc below => exact absurd same (unsigned _ _ _)
  | negSucc below =>
      cases other with
      | ofNat otherMagnitude => exact absurd same.symm (unsigned _ _ _)
      | negSucc otherBelow =>
          obtain ⟨next, ends⟩ := cutOff_toDigits (below + 1) _ _ _ ended otherEnded (List.tail_eq_of_cons_eq same)
          cases next
          exact ⟨rfl, ends⟩

section Separated

variable {encode : α → List Char} {items others : List α} {close : Char}

/-- With commas between the items. -/
def separated (encode : α → List Char) : List α → List Char
  | [] => []
  | item :: rest => encode item ++ rest.flatMap fun next => ',' :: encode next

theorem ended_following (closes : close.isDigit = false) (items : List α) (rest : List Char) :
    Ended ((items.flatMap fun next => ',' :: encode next) ++ close :: rest) := by
  cases items with
  | nil => exact ended_cons closes rest
  | cons item items => exact ended_cons (by decide) _

theorem following_append_inj (closes : close.isDigit = false) (noComma : close ≠ ',')
    (each : ∀ item ∈ items, CutOff encode item)
    (same : (items.flatMap fun next => ',' :: encode next) ++ close :: rest =
      (others.flatMap fun next => ',' :: encode next) ++ close :: behind) :
    items = others ∧ rest = behind := by
  induction items generalizing others with
  | nil =>
      cases others with
      | nil => exact ⟨rfl, List.tail_eq_of_cons_eq same⟩
      | cons other others => exact absurd (List.head_eq_of_cons_eq same) noComma
  | cons item items ih =>
      obtain ⟨first, later⟩ := List.forall_mem_cons.mp each
      cases others with
      | nil => exact absurd (List.head_eq_of_cons_eq same).symm noComma
      | cons other others =>
          simp only [List.flatMap_cons, List.cons_append, List.append_assoc, List.cons.injEq, true_and] at same
          obtain ⟨rfl, following⟩ :=
            first _ _ _ (ended_following closes items rest) (ended_following closes others behind) same
          obtain ⟨rfl, ends⟩ := ih later following
          exact ⟨rfl, ends⟩

theorem separated_append_inj (closes : close.isDigit = false) (noComma : close ≠ ',')
    (opens : ∀ item rest, (encode item ++ rest).head? ≠ some close) (each : ∀ item ∈ items, CutOff encode item)
    (same : separated encode items ++ close :: rest = separated encode others ++ close :: behind) :
    items = others ∧ rest = behind := by
  cases items with
  | nil =>
      cases others with
      | nil => exact ⟨rfl, List.tail_eq_of_cons_eq same⟩
      | cons other others =>
          rw [separated, separated, List.append_assoc] at same
          exact absurd (congrArg List.head? same).symm (opens other _)
  | cons item items =>
      obtain ⟨first, later⟩ := List.forall_mem_cons.mp each
      cases others with
      | nil =>
          rw [separated, separated, List.append_assoc] at same
          exact absurd (congrArg List.head? same) (opens item _)
      | cons other others =>
          rw [separated, separated, List.append_assoc, List.append_assoc] at same
          obtain ⟨rfl, following⟩ :=
            first _ _ _ (ended_following closes items rest) (ended_following closes others behind) same
          obtain ⟨rfl, ends⟩ := following_append_inj closes noComma later following
          exact ⟨rfl, ends⟩

end Separated

def compactMember (entry : String × Json) : List Char := quoted entry.1 ++ ':' :: compact entry.2

theorem compactItems_eq (items : List Json) : compactItems items = separated compact items := by
  induction items with
  | nil => rfl
  | cons item rest ih =>
      cases rest with
      | nil => simp [compactItems, separated]
      | cons next others =>
          rw [compactItems, ih]
          · simp [separated]
          · exact List.cons_ne_nil next others

theorem compactFields_eq (fields : List (String × Json)) : compactFields fields = separated compactMember fields := by
  induction fields with
  | nil => rfl
  | cons entry rest ih =>
      cases rest with
      | nil => simp [compactFields, separated, compactMember]
      | cons next others =>
          rw [compactFields, ih]
          · simp [separated, compactMember]
          · exact List.cons_ne_nil next others

/-- The kind of a value, as its first character shows it. -/
inductive Shape where
  | null
  | bool (value : Bool)
  | number
  | string
  | array
  | object

def shape : Json → Shape
  | .null => .null
  | .bool value => .bool value
  | .number _ => .number
  | .string _ => .string
  | .array _ => .array
  | .object _ => .object

def Shape.ofFirst? (c : Char) : Option Shape :=
  if c = 'n' then some .null
  else if c = 't' then some (.bool true)
  else if c = 'f' then some (.bool false)
  else if c = '"' then some .string
  else if c = '[' then some .array
  else if c = '{' then some .object
  else if c = '-' ∨ c.isDigit then some .number
  else none

theorem Shape.ofFirst?_digit (digit : c.isDigit = true) : Shape.ofFirst? c = some .number := by
  have apart : ∀ d, d.isDigit = false → c ≠ d := by
    rintro d noDigit rfl
    rw [noDigit] at digit
    cases digit
  simp [Shape.ofFirst?, apart, digit]

theorem shape_of_head (json : Json) (rest : List Char) :
    (compact json ++ rest).head?.bind Shape.ofFirst? = some json.shape := by
  cases json with
  | null => rfl
  | bool value => cases value <;> rfl
  | number value =>
      cases value with
      | ofNat magnitude =>
          obtain ⟨c, others, whole, digit⟩ := exists_digit_toDigits magnitude rest
          have same : compact (.number (.ofNat magnitude)) ++ rest = c :: others := whole
          rw [same]
          exact Shape.ofFirst?_digit digit
      | negSucc below => rfl
  | string value => rfl
  | array items => rfl
  | object fields => rfl

section Values

variable {json first second : Json}

theorem shape_eq_of_append (same : compact first ++ rest = compact second ++ behind) :
    first.shape = second.shape := by
  have shapes := congrArg (fun text => text.head?.bind Shape.ofFirst?) same
  simpa only [shape_of_head, Option.some.injEq] using shapes

theorem head_ne_of_ofFirst? {close : Char} (closes : Shape.ofFirst? close = none) (json : Json)
    (rest : List Char) : (compact json ++ rest).head? ≠ some close := by
  intro starts
  have shape := shape_of_head json rest
  rw [starts, Option.bind_some, closes] at shape
  cases shape

theorem cutOff_compactMember {entry : String × Json} (value : CutOff compact entry.2) : CutOff compactMember entry := by
  intro other rest behind ended otherEnded same
  rw [compactMember, compactMember, List.append_assoc, List.append_assoc] at same
  obtain ⟨name, later⟩ := cutOff_quoted entry.1 _ _ _ (ended_cons (by decide) _) (ended_cons (by decide) _) same
  obtain ⟨content, ends⟩ := value _ _ _ ended otherEnded (List.tail_eq_of_cons_eq later)
  exact ⟨Prod.ext name content, ends⟩

/-- Only values of the same shape have to be told apart. -/
theorem cutOff_of_shape
    (alike : ∀ other rest behind, json.shape = other.shape → Ended rest → Ended behind →
      compact json ++ rest = compact other ++ behind → json = other ∧ rest = behind) :
    CutOff compact json :=
  fun other rest behind ended otherEnded same =>
    alike other rest behind (shape_eq_of_append same) ended otherEnded same

theorem cutOff_array {items : List Json} (each : ∀ item ∈ items, CutOff compact item) :
    CutOff compact (.array items) := by
  refine cutOff_of_shape fun other rest behind shapes _ _ same => ?_
  cases other <;> cases shapes
  rename_i others
  have inside : separated compact items ++ ']' :: rest = separated compact others ++ ']' :: behind := by
    simpa [compact, compactItems_eq] using same
  obtain ⟨rfl, ends⟩ :=
    separated_append_inj (by decide) (by decide) (head_ne_of_ofFirst? (by decide)) each inside
  exact ⟨rfl, ends⟩

theorem cutOff_object {fields : List (String × Json)} (each : ∀ entry ∈ fields, CutOff compact entry.2) :
    CutOff compact (.object fields) := by
  refine cutOff_of_shape fun other rest behind shapes _ _ same => ?_
  cases other <;> cases shapes
  rename_i others
  have inside : separated compactMember fields ++ '}' :: rest =
      separated compactMember others ++ '}' :: behind := by
    simpa [compact, compactFields_eq] using same
  have opens : ∀ entry rest, (compactMember entry ++ rest).head? ≠ some '}' := by
    simp [compactMember, quoted]
  obtain ⟨rfl, ends⟩ :=
    separated_append_inj (by decide) (by decide) opens
      (fun entry inList => cutOff_compactMember (each entry inList)) inside
  exact ⟨rfl, ends⟩

theorem cutOff_compact (json : Json) : CutOff compact json := by
  induction json with
  | array items each => exact cutOff_array each
  | object fields each => exact cutOff_object each
  | null =>
      refine cutOff_of_shape fun other rest behind shapes _ _ same => ?_
      cases other <;> cases shapes
      exact ⟨rfl, List.append_cancel_left same⟩
  | bool value =>
      refine cutOff_of_shape fun other rest behind shapes _ _ same => ?_
      cases other <;> cases shapes
      exact ⟨rfl, List.append_cancel_left same⟩
  | number value =>
      refine cutOff_of_shape fun other rest behind shapes ended otherEnded same => ?_
      cases other <;> cases shapes
      obtain ⟨rfl, ends⟩ := cutOff_integer value _ _ _ ended otherEnded same
      exact ⟨rfl, ends⟩
  | string value =>
      refine cutOff_of_shape fun other rest behind shapes ended otherEnded same => ?_
      cases other <;> cases shapes
      obtain ⟨rfl, ends⟩ := cutOff_quoted value _ _ _ ended otherEnded same
      exact ⟨rfl, ends⟩

theorem compact_injective : Function.Injective compact := by
  intro first second same
  have written : compact first ++ [] = compact second ++ [] := by rw [same]
  exact (cutOff_compact first _ _ _ ended_nil ended_nil written).1

theorem compactText_injective : Function.Injective compactText :=
  fun _ _ same => compact_injective (String.ofList_injective same)

end Values

end SemanticLayer.Json
