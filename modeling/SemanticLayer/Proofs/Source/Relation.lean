import SemanticLayer.Proofs.Text.Trim
import SemanticLayer.Source.Relation
namespace SemanticLayer.Source

/-! The relation that a text names: what a reference quotes, and any other text as it stands. -/

open Text

variable {expected text rest name : List Char} {c : Char}

/-- `text` is `ref('name')`, with quotes of either kind. White space may stand around it and inside
its parentheses, and the name may hold anything but quotes. -/
inductive RefersTo : (text name : List Char) → Prop
  | intro {before opened name closed after : List Char} {opening closing : Char} :
      AllBlank before → AllBlank opened → isQuote opening → name ≠ [] →
      (∀ c ∈ name, isQuote c = false) → isQuote closing → AllBlank closed → AllBlank after →
      RefersTo
        (before ++ "ref(".toList ++ opened ++ [opening] ++ name ++ [closing] ++ closed ++ [')'] ++ after)
        name

theorem isBlank_of_isQuote (quote : isQuote c) : isBlank c = false := by
  have either : c = '\'' ∨ c = '"' := by simpa [isQuote] using quote
  rcases either with rfl | rfl <;> decide

theorem afterLiteral?_eq_some_iff :
    afterLiteral? expected text = some rest ↔ text = expected ++ rest := by
  fun_induction afterLiteral? expected text with
  | case1 text => simp
  | case2 c expected => simp
  | case3 c expected d text same ih =>
      cases beq_iff_eq.mp same
      simp [ih]
  | case4 c expected d text differ =>
      have apart : d ≠ c := fun same => differ (beq_iff_eq.mpr same.symm)
      simp [apart]

theorem afterQuote?_eq_some_iff :
    afterQuote? text = some rest ↔ ∃ quote, isQuote quote ∧ text = quote :: rest := by
  constructor
  · intro found
    unfold afterQuote? at found
    split at found
    · cases found
    · next c others =>
      split at found
      · next quote =>
        cases found
        exact ⟨c, quote, rfl⟩
      · cases found
  · rintro ⟨quote, isQuote, rfl⟩
    exact if_pos isQuote

theorem afterLiteral?_trimStart (visible : StartsVisible (expected ++ rest)) :
    afterLiteral? expected (trimStart text) = some rest ↔
      ∃ before, AllBlank before ∧ text = before ++ (expected ++ rest) := by
  rw [afterLiteral?_eq_some_iff, trimStart_eq_iff, and_iff_left visible]
  simp only [and_comm]

theorem afterQuote?_trimStart :
    afterQuote? (trimStart text) = some rest ↔
      ∃ before quote, AllBlank before ∧ isQuote quote ∧ text = before ++ quote :: rest := by
  simp only [afterQuote?_eq_some_iff, trimStart_eq_iff]
  constructor
  · rintro ⟨quote, isQuote, ⟨before, whole, blank⟩, _⟩
    exact ⟨before, quote, blank, isQuote, whole⟩
  · rintro ⟨before, quote, blank, isQuote, whole⟩
    refine ⟨quote, isQuote, ⟨before, whole, blank⟩, fun c first => ?_⟩
    cases first
    exact isBlank_of_isQuote isQuote

/-- A name ends at the first quote behind it. -/
theorem takeWhile_eq_and_afterQuote? {quoted : List Char} :
    quoted.takeWhile (fun c => !isQuote c) = name ∧ afterQuote? (quoted.drop name.length) = some rest ↔
      (∀ c ∈ name, isQuote c = false) ∧ ∃ closing, isQuote closing ∧ quoted = name ++ closing :: rest := by
  rw [afterQuote?_eq_some_iff]
  constructor
  · rintro ⟨rfl, closing, quote, behind⟩
    refine ⟨fun c member => ?_, closing, quote, ?_⟩
    · simpa using List.all_eq_true.mp List.all_takeWhile c member
    · rw [← behind]
      exact (List.prefix_iff_eq_append.mp (List.takeWhile_prefix _)).symm
  · rintro ⟨plain, closing, quote, rfl⟩
    have inside : ∀ c ∈ name, (!isQuote c) = true := fun c member => by simp [plain c member]
    refine ⟨?_, closing, quote, List.drop_left⟩
    rw [List.takeWhile_append_of_pos inside, List.takeWhile_cons_of_neg (by simp [quote]),
      List.append_nil]

/-- The parts of a reference as they are read, one behind the other. -/
theorem referenced?_eq_some_iff_parts :
    referenced? text = some name ↔
      ∃ inner quoted close after, afterLiteral? "ref(".toList (trimStart text) = some inner ∧
        afterQuote? (trimStart inner) = some quoted ∧ name ≠ [] ∧
        (quoted.takeWhile (fun c => !isQuote c) = name ∧
          afterQuote? (quoted.drop name.length) = some close) ∧
        afterLiteral? [')'] (trimStart close) = some after ∧ AllBlank after := by
  unfold referenced?
  simp only [Option.bind_eq_bind, Option.bind_eq_some_iff, Option.bind_none,
    Option.ite_none_left_eq_some, Option.ite_none_right_eq_some, List.isEmpty_iff, List.all_eq_true,
    Option.some.injEq]
  constructor
  · rintro ⟨inner, literal, quoted, opened, named, close, closed, after, ended, blank, rfl⟩
    exact ⟨inner, quoted, close, after, literal, opened, named, ⟨rfl, closed⟩, ended, blank⟩
  · rintro ⟨inner, quoted, close, after, literal, opened, named, ⟨rfl, closed⟩, ended, blank⟩
    exact ⟨inner, literal, quoted, opened, named, close, closed, after, ended, blank, rfl⟩

theorem referenced?_eq_some_iff : referenced? text = some name ↔ RefersTo text name := by
  have letterFirst : ∀ rest, StartsVisible ("ref(".toList ++ rest) := by
    intro rest c first
    cases first
    decide
  have parenthesisFirst : ∀ rest, StartsVisible ([')'] ++ rest) := by
    intro rest c first
    cases first
    decide
  simp only [referenced?_eq_some_iff_parts, afterLiteral?_trimStart (letterFirst _),
    afterQuote?_trimStart, takeWhile_eq_and_afterQuote?, afterLiteral?_trimStart (parenthesisFirst _)]
  constructor
  · rintro ⟨inner, quoted, close, after, ⟨before, beforeBlank, rfl⟩,
      ⟨opened, opening, openedBlank, opens, rfl⟩, named, ⟨plain, closing, closes, rfl⟩,
      ⟨closed, closedBlank, rfl⟩, afterBlank⟩
    have refers := RefersTo.intro beforeBlank openedBlank opens named plain closes closedBlank afterBlank
    simpa only [List.append_assoc, List.cons_append, List.nil_append] using refers
  · rintro ⟨beforeBlank, openedBlank, opens, named, plain, closes, closedBlank, afterBlank⟩
    simp only [List.append_assoc, List.cons_append, List.nil_append]
    exact ⟨_, _, _, _, ⟨_, beforeBlank, rfl⟩, ⟨_, _, openedBlank, opens, rfl⟩, named,
      ⟨plain, _, closes, rfl⟩, ⟨_, closedBlank, rfl⟩, afterBlank⟩

/-- A text has the name of its reference, of which there is at most one, or else all of it without the
white space around it. -/
theorem relationName_eq_iff (text name : String) :
    relationName text = name ↔
      RefersTo text.toList name.toList ∨
        (∀ quoted, ¬ RefersTo text.toList quoted) ∧ Trimmed text.toList name.toList := by
  have spelled : ∀ characters : List Char,
      String.ofList characters = name ↔ characters = name.toList := by
    intro characters
    rw [← String.toList_inj, String.toList_ofList]
  simp only [← referenced?_eq_some_iff, ← trim_eq_iff, ← Option.eq_none_iff_forall_ne_some]
  unfold relationName
  rw [spelled]
  cases referenced? text.toList with
  | none => simp
  | some quoted => simp

example : relationName " ref( \"fct_rentals' )" = "fct_rentals" := by decide +kernel

example : relationName " ref('fct_rentals') as r" = "ref('fct_rentals') as r" := by decide +kernel

end SemanticLayer.Source
