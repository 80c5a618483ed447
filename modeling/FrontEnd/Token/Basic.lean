import FrontEnd.Text.Position
import FrontEnd.Token.Kind

namespace FrontEnd

/-- A piece of a text, with its kind and the place where it begins. -/
structure Token where
  kind : Kind
  lexeme : String
  position : Position
  deriving DecidableEq, Repr

namespace Token

/-- The line of a token listing that shows this token. -/
def listing (token : Token) : String :=
  token.kind.name ++ " '" ++ token.lexeme ++ "' " ++ token.position.text

end Token

end FrontEnd
