import SemanticLayer.Proofs.LookML.Literal
namespace SemanticLayer.LookML

/-! Quoted text in front of other text.

The end of what `quote` has written can be found by looking for the first quote that stands for
itself, whatever the text holds and whatever comes behind it. -/

variable {c : Char} {text behind content rest : List Char}

/-- After an opening quote: the text up to the first quote without a backslash, and what is behind
that quote. A backslash stands for the character behind it. -/
def readQuoted : List Char → Option (List Char × List Char)
  | [] => none
  | '"' :: rest => some ([], rest)
  | '\\' :: c :: rest => (readQuoted rest).map fun (content, behind) => (c :: content, behind)
  | c :: rest => (readQuoted rest).map fun (content, behind) => (c :: content, behind)

theorem readQuoted_cons_plain (noQuote : c ≠ '"') (noBackslash : c ≠ '\\') :
    readQuoted (c :: rest) = (readQuoted rest).map fun (content, behind) => (c :: content, behind) := by
  rw [readQuoted]
  · exact noQuote
  · exact fun _ _ backslash _ => noBackslash backslash

theorem readQuoted_escape_append (text behind : List Char) :
    readQuoted (escape text ++ '"' :: behind) = some (text.map breakToSpace, behind) := by
  fun_induction escape text with
  | case1 => rfl
  | case2 rest ih => simp [readQuoted, ih, breakToSpace]
  | case3 rest ih => simp [readQuoted, ih, breakToSpace]
  | case4 rest ih => simp [readQuoted, ih, breakToSpace]
  | case5 rest ih => simp [readQuoted, ih, breakToSpace]
  | case6 c rest noBackslash noQuote noFeed noReturn ih =>
      have kept : breakToSpace c = c := if_neg (not_or.mpr ⟨noFeed, noReturn⟩)
      rw [List.cons_append, readQuoted_cons_plain noQuote noBackslash, ih, List.map_cons, kept]
      rfl

/-- More text does not move the end. -/
theorem readQuoted_append (read : readQuoted text = some (content, behind)) (more : List Char) :
    readQuoted (text ++ more) = some (content, behind ++ more) := by
  fun_induction readQuoted text generalizing content with
  | case1 => cases read
  | case2 rest =>
      cases read
      rfl
  | case3 c rest ih =>
      obtain ⟨⟨inner, after⟩, found, same⟩ := Option.map_eq_some_iff.mp read
      cases same
      simp [readQuoted, ih found]
  | case4 c rest noQuote noEscape ih =>
      obtain ⟨⟨inner, after⟩, found, same⟩ := Option.map_eq_some_iff.mp read
      cases same
      -- A backslash would have to be the last character, with nothing behind it to read.
      have noBackslash : c ≠ '\\' := by
        rintro rfl
        cases rest with
        | nil => cases found
        | cons next others => exact noEscape next others rfl rfl
      rw [List.cons_append, readQuoted_cons_plain noQuote noBackslash, ih found]
      rfl

/-- Of quoted text neither a character too few nor one too many is read. -/
theorem quoted_text_ends_at_its_quote (text behind : String) :
    ∃ body, (quote text).toList = '"' :: (body ++ ['"']) ∧
      readQuoted ((quote text ++ behind).toList.drop 1) =
        some (text.toList.map breakToSpace, behind.toList) ∧
      ∀ front, front <+: body → readQuoted front = none := by
  have written : (quote text).toList = '"' :: (escape text.toList ++ ['"']) := by
    simp [quote, escapeText]
  refine ⟨escape text.toList, written, ?_, ?_⟩
  · rw [String.toList_append, written]
    simpa using readQuoted_escape_append text.toList behind.toList
  · intro front within
    obtain ⟨more, whole⟩ := within
    cases read : readQuoted front with
    | none => rfl
    | some found =>
        -- The closing quote would be left over, and it is not.
        have longer := readQuoted_append read (more ++ ['"'])
        rw [← List.append_assoc, whole, readQuoted_escape_append text.toList []] at longer
        simp at longer

end SemanticLayer.LookML
