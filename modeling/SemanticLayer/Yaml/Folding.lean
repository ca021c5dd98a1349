import SemanticLayer.Yaml.Cursor
namespace SemanticLayer.Yaml

/-! The white space inside a scalar that may go over several lines. -/

/-- Blanks and breaks between two words. -/
structure Gap where
  /-- The blanks in front of the first break. -/
  blanks : List Char := []
  crossesLines : Bool := false
  firstBreak : List Char := []
  moreBreaks : List Char := []
deriving Repr, Inhabited

namespace Gap

/-- What the gap stands for: blanks within a line are kept, one break is a space, and of
several breaks the first is dropped. -/
def folded (gap : Gap) : List Char :=
  if gap.crossesLines then
    if gap.firstBreak == ['\n'] then
      if gap.moreBreaks.isEmpty then [' '] else gap.moreBreaks
    else gap.firstBreak ++ gap.moreBreaks
  else gap.blanks

/-- Read on through blanks and breaks. A tab before column `margin` of a later line is
an error. -/
def scan (margin : Nat) (gap : Gap) (cursor : Cursor) : Nat → Except SyntaxError (Gap × Cursor)
  | 0 => .ok (gap, cursor)
  | fuel + 1 =>
      match cursor.peek? with
      | none => .ok (gap, cursor)
      | some c =>
          if isSpaceOrTab c then
            if gap.crossesLines then
              if c == '\t' && cursor.column < margin then
                .error (cursor.error "found a tab character that violates indentation")
              else scan margin gap cursor.skip fuel
            else scan margin { gap with blanks := gap.blanks ++ [c] } cursor.skip fuel
          else if isBreak c then
            let (text, next) := cursor.takeBreak
            if gap.crossesLines then
              scan margin { gap with moreBreaks := gap.moreBreaks ++ text } next fuel
            else scan margin { gap with crossesLines := true, firstBreak := text } next fuel
          else .ok (gap, cursor)

end Gap

end SemanticLayer.Yaml
