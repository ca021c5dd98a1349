import SemanticLayer.Yaml.Folding
namespace SemanticLayer.Yaml

/-! Scalars without quotes. -/

/-- The characters up to a blank, a break or an indicator that ends the scalar. Inside
flow collections their brackets and the comma end it too, and a colon must not stand in
front of one of them. -/
def plainRun (inFlow : Bool) : List Char → Option (List Char)
  | [] => some []
  | c :: rest =>
      let next := rest.head?
      if isSpaceOrTab c || isBreak c then some []
      else if inFlow && c == ':' && next.any (",?[]\x7b\x7d".toList.contains ·) then none
      else if c == ':' && next.all (fun c => isSpaceOrTab c || isBreak c) then some []
      else if inFlow && ",[]\x7b\x7d".toList.contains c then some []
      else (plainRun inFlow rest).map (c :: ·)

structure PlainScalar where
  text : List Char
  /-- Did the scan go on to a later line before it found the end? -/
  reachedNextLine : Bool
  cursor : Cursor

/-- Read words and the gaps between them. Outside flow collections every line must stand
at column `margin` or further right. -/
def scanPlain (inFlow : Bool) (margin : Nat) (text : List Char) (gap : Gap) (cursor : Cursor) :
    Nat → Except SyntaxError PlainScalar
  | 0 => .ok ⟨text, gap.crossesLines, cursor⟩
  | fuel + 1 =>
      if cursor.atAnyDocumentMarker || cursor.isAt '#' then .ok ⟨text, gap.crossesLines, cursor⟩
      else
        match plainRun inFlow cursor.rest with
        | none => .error (cursor.error "found unexpected ':' while scanning a plain scalar")
        | some run => do
            let cursor := cursor.advance run.length
            let (text, gap) :=
              if run.isEmpty then (text, gap) else (text ++ gap.folded ++ run, ({} : Gap))
            if cursor.peek?.all fun c => !(isSpaceOrTab c || isBreak c) then
              return ⟨text, gap.crossesLines, cursor⟩
            let (gap, next) ← Gap.scan margin gap cursor (cursor.rest.length + 1)
            if !inFlow && next.column < margin then return ⟨text, gap.crossesLines, next⟩
            scanPlain inFlow margin text gap next fuel

end SemanticLayer.Yaml
