import SemanticLayer.Yaml.Folding
namespace SemanticLayer.Yaml

/-! Literal and folded block scalars. -/

/-- What becomes of the breaks at the end. -/
inductive Chomping where
  | strip | clip | keep
deriving DecidableEq, Repr

structure BlockHeader where
  chomping : Chomping
  /-- How far the lines are indented, where the header says so. -/
  increment : Option Nat

def chomping? : Option Char → Option Chomping
  | some '+' => some .keep
  | some '-' => some .strip
  | _ => none

/-- An indentation of zero is refused. -/
def scanIncrement (cursor : Cursor) : Except SyntaxError (Option Nat × Cursor) :=
  match cursor.peek? with
  | some c =>
      if c == '0' then .error (cursor.error "found an indentation indicator equal to 0")
      else if c.isDigit then .ok (some (c.toNat - '0'.toNat), cursor.skip)
      else .ok (none, cursor)
  | none => .ok (none, cursor)

/-- The two indicators may come in either order. -/
def scanBlockHeader (cursor : Cursor) : Except SyntaxError (BlockHeader × Cursor) :=
  match chomping? cursor.peek? with
  | some chomping => do
      let (increment, cursor) ← scanIncrement cursor.skip
      return (⟨chomping, increment⟩, cursor)
  | none => do
      let (increment, cursor) ← scanIncrement cursor
      match increment, chomping? cursor.peek? with
      | some _, some chomping => return (⟨chomping, increment⟩, cursor.skip)
      | _, _ => return (⟨.clip, increment⟩, cursor)

/-- Read empty lines and the indentation of the next line. While no indentation is known,
all leading spaces are read, and the deepest column seen is kept. -/
def scanBlockBreaks (indentation : Option Nat) (deepest : Nat) (breaks : List Char)
    (cursor : Cursor) : Nat → Except SyntaxError (List Char × Nat × Cursor)
  | 0 => .ok (breaks, deepest, cursor)
  | fuel + 1 =>
      let inside (column : Nat) : Bool := indentation.all fun limit => column < limit
      let spaces := (cursor.rest.takeWhile (· == ' ')).length
      let wanted :=
        match indentation with
        | none => spaces
        | some limit => min spaces (limit - cursor.column)
      let cursor := cursor.advance wanted
      let deepest := max deepest cursor.column
      if inside cursor.column && cursor.isAt '\t' then
        .error (cursor.error "found a tab character where an indentation space is expected")
      else if cursor.peek?.any isBreak then
        let (text, next) := cursor.takeBreak
        scanBlockBreaks indentation deepest (breaks ++ text) next fuel
      else .ok (breaks, deepest, cursor)

structure BlockLines where
  text : List Char := []
  lastBreak : List Char := []
  trailingBreaks : List Char := []
  /-- Does the last line start with a blank? -/
  startsBlank : Bool := false

/-- Add the line at the cursor. In a folded scalar a single break between two lines that
do not start with a blank becomes a space. -/
def BlockLines.join (lines : BlockLines) (literal startsBlank : Bool) (line : List Char) :
    List Char :=
  let folds := !literal && lines.lastBreak == ['\n'] && !lines.startsBlank && !startsBlank
  let between :=
    if folds then if lines.trailingBreaks.isEmpty then [' '] else []
    else lines.lastBreak
  lines.text ++ between ++ lines.trailingBreaks ++ line

def scanBlockLines (literal : Bool) (indentation : Nat) (lines : BlockLines) (cursor : Cursor) :
    Nat → Except SyntaxError (BlockLines × Cursor)
  | 0 => .ok (lines, cursor)
  | fuel + 1 =>
      if cursor.column == indentation && !cursor.atEnd then do
        let startsBlank := cursor.peek?.any isSpaceOrTab
        let (line, cursor) := cursor.takeWhile fun c => !isBreak c
        let text := lines.join literal startsBlank line
        let (lastBreak, cursor) := cursor.takeBreak
        let (trailingBreaks, _, cursor) ←
          scanBlockBreaks (some indentation) 0 [] cursor (cursor.rest.length + 1)
        scanBlockLines literal indentation { text, lastBreak, trailingBreaks, startsBlank } cursor fuel
      else .ok (lines, cursor)

def BlockLines.chomped (lines : BlockLines) : Chomping → List Char
  | .strip => lines.text
  | .clip => lines.text ++ lines.lastBreak
  | .keep => lines.text ++ lines.lastBreak ++ lines.trailingBreaks

/-- Read a block scalar whose indicator is at the cursor. `margin` is the first column
that lies inside the surrounding block. -/
def scanBlock (literal : Bool) (parent : Option Nat) (cursor : Cursor) :
    Except SyntaxError (List Char × Cursor) := do
  let (header, cursor) ← scanBlockHeader cursor.skip
  let cursor ← cursor.finishLine
  let given := header.increment.map fun increment => parent.getD 0 + increment
  let (breaks, deepest, cursor) ← scanBlockBreaks given 0 [] cursor (cursor.rest.length + 1)
  let margin := match parent with | none => 0 | some column => column + 1
  let indentation := given.getD (max 1 (max deepest margin))
  let (lines, cursor) ←
    scanBlockLines literal indentation { trailingBreaks := breaks } cursor (cursor.rest.length + 1)
  return (lines.chomped header.chomping, cursor)

end SemanticLayer.Yaml
