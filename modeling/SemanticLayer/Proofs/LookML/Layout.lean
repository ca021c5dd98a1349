import SemanticLayer.LookML.Document
import SemanticLayer.Proofs.LookML.Literal
namespace SemanticLayer.LookML

/-! Reading the nested blocks of a file back from its text.

A writer adds the lines of an item, with more or less indentation in front of each. Indentation
is dropped on reading, so that neither its width nor the depth at which an item stands matters:
the braces alone say what is nested in what.

The text gives back its lines (`contentLines`), and these give back the items (`itemsOf?`). -/

variable {key value keyword name : String} {line rest : List Char}

def keyOf (line : List Char) : String := String.ofList (line.takeWhile (· != ':'))

def valueOf (line : List Char) : List Char := (line.dropWhile (· != ':')).drop 2

private theorem until_colon (valid : isValidName key) : ∀ c ∈ key.toList, (c != ':') = true := by
  intro c member
  rw [bne_iff_ne]
  rintro rfl
  exact not_mem_of_isValidName valid (by decide) member

private theorem toList_propertyLine :
    (propertyLine key value).toList = key.toList ++ ':' :: ' ' :: value.toList := by
  simp [propertyLine]

@[simp] theorem keyOf_propertyLine (valid : isValidName key) :
    keyOf (propertyLine key value).toList = key := by
  rw [keyOf, toList_propertyLine, List.takeWhile_append_of_pos (until_colon valid)]
  simp

@[simp] theorem valueOf_propertyLine (valid : isValidName key) :
    valueOf (propertyLine key value).toList = value.toList := by
  rw [valueOf, toList_propertyLine, List.dropWhile_append_of_pos (until_colon valid)]
  simp

def isIndentation (c : Char) : Bool := c == ' ' || c == '\t'

structure IsPlainLine (content : String) : Prop where
  oneLine : '\n' ∉ content.toList
  starts : ∃ first rest, content.toList = first :: rest ∧ isIndentation first = false ∧ first ≠ '\x7d'
  ends : ∃ front last, content.toList = front ++ [last] ∧ last ≠ '\x7b'

theorem exists_start_of_isValidName (valid : isValidName key) :
    ∃ first rest, key.toList = first :: rest ∧ isIndentation first = false ∧ first ≠ '\x7d' := by
  cases text : key.toList with
  | nil => simp [isValidName, isName, text] at valid
  | cons first rest =>
      have named : isNameRest first := isNameRest_of_mem valid (by simp [text])
      refine ⟨first, rest, rfl, ?_, ?_⟩
      · cases indented : isIndentation first with
        | false => rfl
        | true =>
            simp only [isIndentation, Bool.or_eq_true, beq_iff_eq] at indented
            rcases indented with rfl | rfl <;> exact absurd named (by decide)
      · rintro rfl
        exact absurd named (by decide)

theorem starts_propertyLine (valid : isValidName key) :
    ∃ first rest, (propertyLine key value).toList = first :: rest ∧ isIndentation first = false ∧
      first ≠ '\x7d' := by
  obtain ⟨first, rest, text, plain⟩ := exists_start_of_isValidName valid
  refine ⟨first, rest ++ ':' :: ' ' :: value.toList, ?_, plain⟩
  rw [toList_propertyLine, text, List.cons_append]

theorem newline_not_mem_propertyLine (valid : isValidName key) (oneLine : '\n' ∉ value.toList) :
    '\n' ∉ (propertyLine key value).toList := by
  simp [toList_propertyLine, not_mem_of_isValidName valid (c := '\n') (by decide), oneLine]

theorem isPlainLine_propertyLine (valid : isValidName key) (written : IsValue value) :
    IsPlainLine (propertyLine key value) := by
  obtain ⟨front, last, text, plain⟩ := written.ends
  refine ⟨newline_not_mem_propertyLine valid written.oneLine, starts_propertyLine valid,
    key.toList ++ ':' :: ' ' :: front, last, ?_, plain⟩
  rw [toList_propertyLine, text]
  simp

theorem isPlainLine_commentLine : IsPlainLine (commentLine "Generated by lookgen 0.1.0. Do not edit.") :=
  ⟨by decide, ⟨'#', _, rfl, rfl, by decide⟩,
    ⟨(commentLine "Generated by lookgen 0.1.0. Do not edit.").toList.dropLast, '.', by decide +kernel, by decide⟩⟩

/-- Every line of the item can be told from the lines that open and close blocks. -/
inductive Item.Readable : Item → Prop where
  | blank : Readable .blank
  | line {content : String} : IsPlainLine content → Readable (.line content)
  | block {keyword name : String} {items : List Item} : isValidName keyword → isValidName name →
      (∀ item ∈ items, Readable item) → Readable (.block keyword name items)

def Readables (items : List Item) : Prop := ∀ item ∈ items, item.Readable

theorem readable_block {items : List Item} (validKeyword : isValidName keyword)
    (validName : isValidName name) (readable : Readables items) :
    (Item.block keyword name items).Readable :=
  .block validKeyword validName readable

theorem readables_nil : Readables [] := fun _ member => by cases member

theorem readables_cons {item : Item} {items : List Item} :
    Readables (item :: items) ↔ item.Readable ∧ Readables items :=
  List.forall_mem_cons

theorem readables_append {first second : List Item} :
    Readables (first ++ second) ↔ Readables first ∧ Readables second :=
  List.forall_mem_append

/-- The lines of a text, without their indentation. Behind the last line break there is no line. -/
def contentLines (text : List Char) : List (List Char) :=
  (text.splitOn '\n').dropLast.map (·.dropWhile isIndentation)

theorem contentLines_append (oneLine : '\n' ∉ line) :
    contentLines (line ++ '\n' :: rest) = line.dropWhile isIndentation :: contentLines rest := by
  have parted : (line ++ '\n' :: rest).splitOn '\n' = line :: rest.splitOn '\n' := by
    refine List.splitOnP_append_cons_of_forall_mem (fun c member => ?_) '\n' (by simp) rest
    rw [beq_eq_false_iff_ne]
    rintro rfl
    exact oneLine member
  rw [contentLines, parted, List.dropLast_cons_of_ne_nil (List.splitOn_ne_nil _ _), List.map_cons]
  rfl

mutual

/-- The lines of an item without their indentation. -/
def Item.lines : Item → List (List Char)
  | .blank => [[]]
  | .line content => [content.toList]
  | .block keyword name items =>
      (openLine keyword name).toList :: (linesOf items ++ [closeLine.toList])

def linesOf : List Item → List (List Char)
  | [] => []
  | first :: rest => first.lines ++ linesOf rest

end

namespace Writer

variable {writer before middle after : Writer} {content : String}
  {lines more : List (List Char)} {items : List Item}

/-- What is written at the start of a line can be told from its content. -/
def Indents (writer : Writer) : Prop := ∀ c ∈ writer.unit.toList, isIndentation c

theorem indents_ofIndent (indent : Indent) : (ofIndent indent).Indents := by
  cases indent with
  | tabs =>
      rintro c member
      rw [List.mem_singleton.mp member]
      rfl
  | spaces count =>
      intro c member
      simp only [ofIndent, Indent.text, String.toList_ofList] at member
      rw [List.eq_of_mem_replicate member]
      rfl

/-- The text has grown by `lines`, whatever is written behind them. -/
structure Adds (before after : Writer) (lines : List (List Char)) : Prop where
  unit : after.unit = before.unit
  text : ∃ written, after.text.toList = before.text.toList ++ written ∧
    ∀ rest, contentLines (written ++ rest) = lines ++ contentLines rest

theorem Adds.refl (writer : Writer) : writer.Adds writer [] := ⟨rfl, [], by simp, fun _ => rfl⟩

theorem Adds.trans (first : before.Adds middle lines) (second : middle.Adds after more) :
    before.Adds after (lines ++ more) := by
  obtain ⟨front, frontText, frontLines⟩ := first.text
  obtain ⟨back, backText, backLines⟩ := second.text
  refine ⟨second.unit.trans first.unit, front ++ back, ?_, fun rest => ?_⟩
  · rw [backText, frontText, List.append_assoc]
  · rw [List.append_assoc, frontLines, backLines, List.append_assoc]

theorem Adds.indents (adds : before.Adds after lines) (indents : before.Indents) : after.Indents := by
  unfold Indents
  rwa [adds.unit]

theorem isIndentation_of_mem_margin (indents : writer.Indents) {c : Char}
    (member : c ∈ (String.join (List.replicate writer.depth writer.unit)).toList) : isIndentation c := by
  rw [String.toList_join] at member
  obtain ⟨unit, unitMember, inside⟩ := List.mem_flatMap.mp member
  rw [List.eq_of_mem_replicate unitMember] at inside
  exact indents c inside

theorem adds_line (indents : writer.Indents) (oneLine : '\n' ∉ content.toList)
    (starts : ∃ first rest, content.toList = first :: rest ∧ isIndentation first = false) :
    writer.Adds (writer.line content) [content.toList] := by
  obtain ⟨first, behind, text, plain⟩ := starts
  let margin := (String.join (List.replicate writer.depth writer.unit)).toList
  have indentation : ∀ c ∈ margin, isIndentation c := fun c => isIndentation_of_mem_margin indents
  refine ⟨rfl, margin ++ content.toList ++ ['\n'], by simp [line, margin], fun rest => ?_⟩
  have wholeLine : '\n' ∉ margin ++ content.toList := by
    rw [List.mem_append, not_or]
    exact ⟨fun broken => absurd (indentation _ broken) (by decide), oneLine⟩
  have content_eq : (margin ++ content.toList).dropWhile isIndentation = content.toList := by
    rw [List.dropWhile_append_of_pos indentation, text, List.dropWhile_cons_of_neg (by simp [plain])]
  rw [List.append_assoc, List.singleton_append, contentLines_append wholeLine, content_eq]
  rfl

theorem adds_blank (writer : Writer) : writer.Adds writer.blank [[]] := by
  refine ⟨rfl, ['\n'], by simp [blank], fun rest => ?_⟩
  have noChar : '\n' ∉ ([] : List Char) := List.not_mem_nil
  exact contentLines_append noChar

theorem adds_openBlock (indents : writer.Indents) (validKeyword : isValidName keyword)
    (validName : isValidName name) :
    writer.Adds (writer.openBlock keyword name) [(openLine keyword name).toList] := by
  have oneLine : '\n' ∉ (openLine keyword name).toList := by
    refine newline_not_mem_propertyLine validKeyword ?_
    simp [not_mem_of_isValidName validName (c := '\n') (by decide)]
  obtain ⟨first, behind, text, plain, _⟩ := starts_propertyLine validKeyword
  obtain ⟨unit, written⟩ := adds_line indents oneLine ⟨first, behind, text, plain⟩
  exact ⟨unit, written⟩

theorem adds_closeBlock (indents : writer.Indents) :
    writer.Adds writer.closeBlock [closeLine.toList] := by
  have dedented : writer.dedent.Indents := indents
  have oneLine : '\n' ∉ closeLine.toList := by decide
  obtain ⟨unit, written⟩ := adds_line dedented oneLine ⟨'\x7d', [], rfl, rfl⟩
  exact ⟨unit, written⟩

/-- Items add their lines as soon as each of them does. -/
theorem adds_items_of_each (indents : writer.Indents)
    (each : ∀ item ∈ items, ∀ writer : Writer, writer.Indents → writer.Adds (writer.item item) item.lines) :
    writer.Adds (writer.items items) (linesOf items) := by
  induction items generalizing writer with
  | nil => exact Adds.refl writer
  | cons first rest ih =>
      have head := each first (List.mem_cons_self ..) writer indents
      exact head.trans (ih (head.indents indents) fun item member =>
        each item (List.mem_cons_of_mem _ member))

theorem adds_item {item : Item} (readable : item.Readable) (indents : writer.Indents) :
    writer.Adds (writer.item item) item.lines := by
  induction readable generalizing writer with
  | blank => exact adds_blank writer
  | line plain =>
      obtain ⟨first, rest, text, visible, _⟩ := plain.starts
      exact adds_line indents plain.oneLine ⟨first, rest, text, visible⟩
  | block validKeyword validName _ ih =>
      have opened := adds_openBlock indents validKeyword validName
      have filled := adds_items_of_each (opened.indents indents) fun item member _ => ih item member
      have closed := adds_closeBlock (filled.indents (opened.indents indents))
      exact opened.trans (filled.trans closed)

theorem adds_items (readable : Readables items) (indents : writer.Indents) :
    writer.Adds (writer.items items) (linesOf items) :=
  adds_items_of_each indents fun item member _ => adds_item (readable item member)

end Writer

/-- Put a line in front of the items behind it. They are kept block by block, those of the innermost
open block first: a closing brace starts the items of a block, an opening line makes them a block of
the next outer one. -/
def readLine (line : List Char) : List (List Item) → Option (List (List Item))
  | [] => none
  | inner :: outer =>
      if line = ['\x7d'] then some ([] :: inner :: outer)
      else if line = [] then some ((.blank :: inner) :: outer)
      else if line.getLast? = some '\x7b' then
        let name := String.ofList (valueOf line).dropLast.dropLast
        match outer with
        | [] => none
        | items :: others => some ((.block (keyOf line) name inner :: items) :: others)
      else some ((.line (String.ofList line) :: inner) :: outer)

def readLines : List (List Char) → Option (List (List Item))
  | [] => some [[]]
  | line :: rest => readLines rest >>= readLine line

/-- The items of a file. -/
def itemsOf? (text : String) : Option (List Item) :=
  match readLines (contentLines text.toList) with
  | some [items] => some items
  | _ => none

section Reading

variable {inner items : List Item} {outer : List (List Item)} {behind : List (List Char)} {content : String}

theorem readLine_of_isPlainLine (plain : IsPlainLine content) :
    readLine content.toList (inner :: outer) = some ((.line content :: inner) :: outer) := by
  obtain ⟨first, rest, text, _, noBrace⟩ := plain.starts
  obtain ⟨front, last, textEnd, noOpening⟩ := plain.ends
  have inhabited : content.toList ≠ [] := by simp [text]
  have notClosing : content.toList ≠ ['\x7d'] := by simp [text, noBrace]
  have notOpening : content.toList.getLast? ≠ some '\x7b' := by simp [textEnd, noOpening]
  simp only [readLine, if_neg notClosing, if_neg inhabited, if_neg notOpening, String.ofList_toList]

theorem readLine_openLine (validKeyword : isValidName keyword) :
    readLine (openLine keyword name).toList (inner :: items :: outer) =
      some ((.block keyword name inner :: items) :: outer) := by
  have starts : ∃ first rest, (openLine keyword name).toList = first :: rest ∧
      isIndentation first = false ∧ first ≠ '\x7d' := starts_propertyLine validKeyword
  obtain ⟨first, rest, text, _, noBrace⟩ := starts
  have inhabited : (openLine keyword name).toList ≠ [] := by simp [text]
  have notClosing : (openLine keyword name).toList ≠ ['\x7d'] := by simp [text, noBrace]
  have opening : (openLine keyword name).toList.getLast? = some '\x7b' := by
    have split : (openLine keyword name).toList =
        (keyword.toList ++ ':' :: ' ' :: name.toList ++ [' ']) ++ ['\x7b'] := by
      simp [openLine, toList_propertyLine]
    rw [split, List.getLast?_concat]
  have named : String.ofList (valueOf (openLine keyword name).toList).dropLast.dropLast = name := by
    rw [openLine, valueOf_propertyLine validKeyword]
    simp
  simp only [readLine, if_neg notClosing, if_neg inhabited, if_pos opening, named]
  rw [openLine, keyOf_propertyLine validKeyword]

/-- Items are read as soon as each of them is. -/
theorem readLines_linesOf_of_each (read : readLines behind = some (inner :: outer))
    (each : ∀ item ∈ items, ∀ behind inner outer, readLines behind = some (inner :: outer) →
      readLines (item.lines ++ behind) = some ((item :: inner) :: outer)) :
    readLines (linesOf items ++ behind) = some ((items ++ inner) :: outer) := by
  induction items with
  | nil => exact read
  | cons first rest ih =>
      have others := ih fun item member => each item (List.mem_cons_of_mem _ member)
      have head := each first (List.mem_cons_self ..) _ _ _ others
      rwa [← List.append_assoc] at head

theorem readLines_lines {item : Item} (readable : item.Readable)
    (read : readLines behind = some (inner :: outer)) :
    readLines (item.lines ++ behind) = some ((item :: inner) :: outer) := by
  induction readable generalizing behind inner outer with
  | blank => simp [Item.lines, readLines, read, readLine]
  | line plain =>
      simp only [Item.lines, List.singleton_append, readLines, read]
      exact readLine_of_isPlainLine plain
  | @block keyword name items validKeyword _ _ ih =>
      -- The closing brace starts an empty block, which the items fill and the opening line names.
      have closed : readLines (closeLine.toList :: behind) = some ([] :: inner :: outer) := by
        rw [readLines, read]
        rfl
      have filled := readLines_linesOf_of_each closed fun item member _ _ _ => ih item member
      simp only [Item.lines, List.cons_append, List.append_assoc, List.nil_append, readLines, filled,
        List.append_nil]
      exact readLine_openLine validKeyword

theorem readLines_linesOf (readable : Readables items) :
    readLines (linesOf items) = some [items] := by
  have nothing : readLines [] = some [[]] := rfl
  have read := readLines_linesOf_of_each nothing
    fun item member _ _ _ => readLines_lines (readable item member)
  simpa using read

end Reading

theorem readables_header (options : EmitOptions) : Readables (header options) := by
  unfold header
  split
  · simp only [readables_cons, readables_nil, and_true]
    exact ⟨.line isPlainLine_commentLine, .blank⟩
  · exact readables_nil

/-- Whatever the options, a file is read back as the items that were emitted. -/
theorem itemsOf?_emit (options : EmitOptions) {items : List Item} (readable : Readables items) :
    itemsOf? (emit options items) = some (header options ++ items) := by
  have headed := readables_append.mpr ⟨readables_header options, readable⟩
  obtain ⟨written, text, lines⟩ :=
    (Writer.adds_items headed (Writer.indents_ofIndent options.indent)).text
  have read : contentLines (emit options items).toList = linesOf (header options ++ items) := by
    have whole := lines []
    rw [List.append_nil] at whole
    rw [emit, text]
    simpa [Writer.ofIndent, contentLines] using whole
  rw [itemsOf?, read, readLines_linesOf headed]

end SemanticLayer.LookML
