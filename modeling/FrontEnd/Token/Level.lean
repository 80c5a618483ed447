import FrontEnd.Token.Kind

namespace FrontEnd

/-- The layers of binary operators. -/
inductive Level where
  | equality
  | comparison
  | term
  | factor
  deriving DecidableEq, Repr

/-- The layers from the loosest to the tightest. -/
def Level.all : List Level := [equality, comparison, term, factor]

@[simp] theorem Level.length_all : Level.all.length = 4 := rfl

/-- The layer of a binary operator. -/
def Kind.level? : Kind → Option Level
  | equalEqual | bangEqual => some .equality
  | less | lessEqual | greater | greaterEqual => some .comparison
  | plus | minus => some .term
  | star | slash => some .factor
  | _ => none

end FrontEnd
