import SemanticLayer.Text.Category
namespace SemanticLayer.Text

/-! Title case for identifiers: `rentals_per_click` is shown as `Rentals Per Click`.

Separators become one space, a capital after a small letter starts a word, a digit ends
one, and only ASCII letters change their case. -/

structure TitleState where
  /-- Has a letter or digit been seen? -/
  found : Bool := false
  newWord : Bool := true
  firstWord : Bool := true
  /-- The last character that continued a word. -/
  last : Char := ' '
deriving Repr

/-- One character: the state after it and what it adds to the title. -/
def titleStep (state : TitleState) (c : Char) : TitleState × List Char :=
  if !isAlphanumeric c then
    (if state.found then { state with newWord := true } else state, [])
  else if isNumeric c then ({ state with found := true, newWord := true }, [c])
  else if state.newWord || (isLowercase state.last && isUppercase c) then
    ({ state with found := true, newWord := false, firstWord := false },
      if state.firstWord then [c.toUpper] else [' ', c.toUpper])
  else ({ state with found := true, last := c }, [c.toLower])

def titleFrom (state : TitleState) : List Char → List Char
  | [] => []
  | c :: rest =>
      let (next, added) := titleStep state c
      added ++ titleFrom next rest

/-- Separators at the end are dropped first. -/
def titleCase (text : String) : String :=
  let kept := (text.toList.reverse.dropWhile fun c => !isAlphanumeric c).reverse
  String.ofList (titleFrom {} kept)

end SemanticLayer.Text
