import SemanticLayer.LookML.Layout
import SemanticLayer.Proofs.LookML.ValidName
import SemanticLayer.Proofs.Text.OneLine
namespace SemanticLayer.LookML

/-! Reading back what stands behind the key of a line.

Quoted text comes back up to its line breaks, SQL as it was put on one line, and lists of words
as they are. Every such value fits on a line and cannot be taken for the opening of a block. -/

variable {text name : String} {c : Char}

/-- Quoted text has no line breaks. -/
def breakToSpace (c : Char) : Char := if c = '\n' ∨ c = '\r' then ' ' else c

def unbroken (text : String) : String := String.ofList (text.toList.map breakToSpace)

/-- A backslash stands for the character behind it. -/
def unescape : List Char → List Char
  | '\\' :: c :: rest => c :: unescape rest
  | c :: rest => c :: unescape rest
  | [] => []

theorem unescape_escape (text : List Char) : unescape (escape text) = text.map breakToSpace := by
  fun_induction escape text with
  | case1 => rfl
  | case2 rest ih => simp [unescape, ih, breakToSpace]
  | case3 rest ih => simp [unescape, ih, breakToSpace]
  | case4 rest ih => simp [unescape, ih, breakToSpace]
  | case5 rest ih => simp [unescape, ih, breakToSpace]
  | case6 c rest noBackslash _ noFeed noReturn ih =>
      have plain : unescape (c :: escape rest) = c :: unescape (escape rest) := by
        rw [unescape]
        exact fun _ _ backslash _ => noBackslash backslash
      have kept : breakToSpace c = c := if_neg (not_or.mpr ⟨noFeed, noReturn⟩)
      rw [plain, ih, List.map_cons, kept]

theorem newline_not_mem_escape (text : List Char) : '\n' ∉ escape text := by
  fun_induction escape text with
  | case1 => simp
  | case2 rest ih => simp [ih]
  | case3 rest ih => simp [ih]
  | case4 rest ih => simp [ih]
  | case5 rest ih => simp [ih]
  | case6 c rest _ _ noFeed _ ih => simp [ih, Ne.symm noFeed]

theorem mem_intercalate {separator : List Char} {parts : List (List Char)}
    (member : c ∈ separator.intercalate parts) : c ∈ separator ∨ ∃ part ∈ parts, c ∈ part := by
  induction parts with
  | nil => simp at member
  | cons part rest ih =>
      cases rest with
      | nil => exact .inr ⟨part, by simp, by simpa using member⟩
      | cons next others =>
          rw [List.intercalate_cons_cons, List.append_assoc, List.mem_append, List.mem_append] at member
          rcases member with own | between | later
          · exact .inr ⟨part, by simp, own⟩
          · exact .inl between
          · rcases ih later with between | ⟨other, otherMember, inside⟩
            · exact .inl between
            · exact .inr ⟨other, List.mem_cons_of_mem _ otherMember, inside⟩

theorem newline_not_mem_oneLineSql (sql : String) : '\n' ∉ (oneLineSql sql).toList := by
  rw [oneLineSql, String.toList_ofList]
  intro member
  exact absurd (Text.eq_space_of_mem_oneLine member (by decide)) (by decide)

/-- A text that can stand behind the key of a line. -/
structure IsValue (value : String) : Prop where
  oneLine : '\n' ∉ value.toList
  /-- The last character is not the brace that opens a block. -/
  ends : ∃ front last, value.toList = front ++ [last] ∧ last ≠ '\x7b'

theorem isValue_of_isValidName (valid : isValidName name) : IsValue name := by
  refine ⟨not_mem_of_isValidName valid (by decide), ?_⟩
  have inhabited : name.toList ≠ [] := by
    intro empty
    simp [isValidName, isName, empty] at valid
  refine ⟨_, _, (List.dropLast_concat_getLast inhabited).symm, ?_⟩
  intro brace
  have member := List.getLast_mem inhabited
  rw [brace] at member
  exact not_mem_of_isValidName valid (by decide) member

theorem isValue_quote (text : String) : IsValue (quote text) := by
  refine ⟨?_, '"' :: escape text.toList, '"', ?_, by decide⟩
  · simp [quote, escapeText, newline_not_mem_escape]
  · simp [quote, escapeText]

def sqlText (sql : String) : String := oneLineSql sql ++ " ;;"

theorem isValue_sqlText (sql : String) : IsValue (sqlText sql) := by
  refine ⟨?_, (oneLineSql sql).toList ++ [' ', ';'], ';', ?_, by decide⟩
  · simp [sqlText, newline_not_mem_oneLineSql]
  · simp [sqlText]

def textOf (value : List Char) : String := String.ofList (unescape (value.drop 1).dropLast)

@[simp] theorem textOf_quote (text : String) : textOf (quote text).toList = unbroken text := by
  have inner : ((quote text).toList.drop 1).dropLast = escape text.toList := by
    simp [quote, escapeText]
  rw [textOf, inner, unescape_escape, unbroken]

def sqlOf (value : List Char) : String := String.ofList (value.take (value.length - 3))

@[simp] theorem sqlOf_sqlText (sql : String) : sqlOf (sqlText sql).toList = oneLineSql sql := by
  have front : (sqlText sql).toList.take ((sqlText sql).toList.length - 3) = (oneLineSql sql).toList := by
    simp [sqlText]
  rw [sqlOf, front, String.ofList_toList]

/-- A text that can stand in a list. -/
structure IsWord (word : String) : Prop where
  inhabited : word.toList ≠ []
  plain : ∀ c ∈ word.toList, c ≠ ',' ∧ c ≠ ' ' ∧ c ≠ '\n'

theorem isWord_of_isValidName (valid : isValidName name) : IsWord name := by
  refine ⟨fun empty => ?_, fun c member => ⟨?_, ?_, ?_⟩⟩
  · simp [isValidName, isName, empty] at valid
  all_goals
    rintro rfl
    exact not_mem_of_isValidName valid (by decide) member

theorem IsWord.append {first second : String} (firstWord : IsWord first) (secondWord : IsWord second) :
    IsWord (first ++ second) := by
  refine ⟨by simp [firstWord.inhabited], fun c member => ?_⟩
  rw [String.toList_append, List.mem_append] at member
  exact member.elim (firstWord.plain c) (secondWord.plain c)

def listText (words : List String) : String := "[" ++ ", ".intercalate words ++ "]"

theorem isValue_listText {words : List String} (each : ∀ word ∈ words, IsWord word) :
    IsValue (listText words) := by
  refine ⟨?_, '[' :: (", ".intercalate words).toList, ']', by simp [listText], by decide⟩
  have inside : '\n' ∉ [',', ' '].intercalate (words.map String.toList) := by
    intro member
    rcases mem_intercalate member with between | ⟨part, partMember, broken⟩
    · simp at between
    · obtain ⟨word, wordMember, rfl⟩ := List.mem_map.mp partMember
      exact ((each word wordMember).plain _ broken).2.2 rfl
  simpa [listText, String.toList_intercalate] using inside

/-- Commas part the words, and spaces do not count. -/
def wordsOf (value : List Char) : List String :=
  let inner := ((value.drop 1).dropLast).filter (· != ' ')
  if inner.isEmpty then [] else (inner.splitOn ',').map String.ofList

theorem filter_intercalate {words : List String} (each : ∀ word ∈ words, IsWord word) :
    ([',', ' '].intercalate (words.map String.toList)).filter (· != ' ') =
      [','].intercalate (words.map String.toList) := by
  induction words with
  | nil => rfl
  | cons word rest ih =>
      have kept : word.toList.filter (· != ' ') = word.toList := by
        refine List.filter_eq_self.mpr fun c member => ?_
        simpa using ((each word (List.mem_cons_self ..)).plain c member).2.1
      have others := ih fun other member => each other (List.mem_cons_of_mem _ member)
      cases rest with
      | nil => simpa using kept
      | cons next later =>
          simp only [List.map_cons, List.intercalate_cons_cons, List.filter_append] at others ⊢
          rw [kept, others]
          simp

theorem wordsOf_listText {words : List String} (each : ∀ word ∈ words, IsWord word) :
    wordsOf (listText words).toList = words := by
  have inner : ((listText words).toList.drop 1).dropLast.filter (· != ' ') =
      [','].intercalate (words.map String.toList) := by
    rw [← filter_intercalate each]
    simp [listText, String.toList_intercalate]
  cases words with
  | nil => rfl
  | cons word rest =>
      have parted : ([','].intercalate ((word :: rest).map String.toList)).splitOn ',' =
          (word :: rest).map String.toList := by
        refine List.splitOn_intercalate ',' ?_ (by simp)
        intro part member
        obtain ⟨other, otherMember, rfl⟩ := List.mem_map.mp member
        exact fun comma => ((each other otherMember).plain _ comma).1 rfl
      have inhabited : ([','].intercalate ((word :: rest).map String.toList)).isEmpty = false := by
        have first := (each word (List.mem_cons_self ..)).inhabited
        cases rest <;> simp [List.intercalate_cons_cons, first]
      rw [wordsOf, inner, inhabited, parted]
      simp [Function.comp_def]

end SemanticLayer.LookML
