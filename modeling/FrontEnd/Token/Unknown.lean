import FrontEnd.Diagnostic.Basic
import FrontEnd.Token.Basic

namespace FrontEnd.Token

/-- The warning about a token that fits no rule. -/
def unknownWarning (token : Token) : Diagnostic :=
  (Diagnostic.warning ("Unexpected character \"" ++ token.lexeme ++ "\"")).placed token.position

/-- One warning for each unknown token, in the order of the tokens. -/
def unknownCharacters (tokens : List Token) : Diagnostics :=
  (tokens.filter fun token => token.kind = .unknown).map unknownWarning

end FrontEnd.Token
