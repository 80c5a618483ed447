import FrontEnd.Text.Position
import FrontEnd.Text.Quoted

namespace FrontEnd

/-- The text from one of its bytes up to another one. There is none if one of them is inside a
character or behind the end, or if they are in the wrong order. -/
def Text.slice? (text : String) (start stop : Nat) : Option String :=
  if inside : (⟨start⟩ : String.Pos.Raw).IsValid text ∧ (⟨stop⟩ : String.Pos.Raw).IsValid text then
    if start ≤ stop then some (String.extract (text.pos _ inside.1) (text.pos _ inside.2)) else none
  else none

/-- A text, the part of it that is still to be read, and the place where that part begins. -/
structure Cursor where
  source : List Char
  rest : List Char
  position : Position
  deriving DecidableEq, Repr

namespace Cursor

def ofString (source : String) : Cursor := ⟨source.toList, source.toList, .start⟩

def peek? (cursor : Cursor) : Option Char := cursor.rest.head?

/-- All movement skips a number of characters; the end of the text stops it. -/
def skip (cursor : Cursor) (count : Nat) : Cursor :=
  { cursor with
    rest := cursor.rest.drop count
    position := cursor.position.advance (cursor.rest.take count) }

def next (cursor : Cursor) : Option Char × Cursor := (cursor.peek?, cursor.skip 1)

/-- The character behind `count` others, and the cursor behind that character. -/
def nth (cursor : Cursor) (count : Nat) : Option Char × Cursor := (cursor.skip count).next

/-- The whole rest of the text, and the cursor at its end. -/
def collect (cursor : Cursor) : String × Cursor :=
  (String.ofList cursor.rest, cursor.skip cursor.rest.length)

def skipIf (cursor : Cursor) (expected : Char) : Bool × Cursor :=
  if cursor.peek? = some expected then (true, cursor.skip 1) else (false, cursor)

def skipWhile (cursor : Cursor) (accepts : Char → Bool) : Cursor :=
  cursor.skip (cursor.rest.takeWhile accepts).length

/-- The number of bytes in front of a cursor. -/
def offset (cursor : Cursor) : Nat :=
  (String.ofList cursor.source).utf8ByteSize - (String.ofList cursor.rest).utf8ByteSize

/-- The text between two cursors. There is none if they stand in different texts or in the
wrong order. -/
def sliceTo? (start stop : Cursor) : Option String :=
  if start.source = stop.source then
    Text.slice? (String.ofList start.source) start.offset stop.offset
  else none

/-- A description on one line leaves out the rest of the text. -/
def describe (cursor : Cursor) : String :=
  "Cursor \x7b line: Line(" ++ toString cursor.position.line ++ "), col: Col(" ++
    toString cursor.position.column ++ ") \x7d"

/-- A full description takes several lines. -/
def describeFully (cursor : Cursor) : String :=
  "Cursor \x7b\n    line: Line(\n        " ++ toString cursor.position.line ++
    ",\n    ),\n    col: Col(\n        " ++ toString cursor.position.column ++
    ",\n    ),\n    rest: " ++ Text.quoted (String.ofList cursor.rest) ++ ",\n\x7d"

end Cursor

end FrontEnd
