namespace FrontEnd

/-- A place in a text; lines and columns count characters from one. -/
structure Position where
  line : Nat
  column : Nat
  deriving DecidableEq, Repr

namespace Position

/-- Every text begins here. -/
def start : Position := ⟨1, 1⟩

/-- A line feed ends its line, and every other character takes one column. -/
def next (position : Position) (character : Char) : Position :=
  if character = '\n' then ⟨position.line + 1, 1⟩
  else ⟨position.line, position.column + 1⟩

/-- The place right behind the given characters. -/
def advance (position : Position) (characters : List Char) : Position :=
  characters.foldl next position

def text (position : Position) : String :=
  toString position.line ++ ":" ++ toString position.column

@[simp] theorem advance_nil (position : Position) : position.advance [] = position := rfl

@[simp] theorem advance_cons (position : Position) (character : Char) (rest : List Char) :
    position.advance (character :: rest) = (position.next character).advance rest := rfl

theorem advance_append (position : Position) (first second : List Char) :
    position.advance (first ++ second) = (position.advance first).advance second :=
  List.foldl_append

end Position

end FrontEnd
