import FrontEnd.Text.Quoted
import FrontEnd.Token.Basic

namespace FrontEnd

/-- What a run takes note of. -/
inductive Event where
  | scanned (token : Token)
  | scannedAll (count : Nat)
  | primary (token : Token)
  | function (name : Token) (parameterCount : Nat)
  | parsedAll (expressionCount tokenCount : Nat)
  deriving DecidableEq, Repr

namespace Event

/-- A lexeme of the text is shown in quotation marks, with its control characters escaped. -/
def text : Event → String
  | scanned token =>
      "TRACE scanner: " ++ token.kind.name ++ " " ++ Text.quoted token.lexeme ++ " at " ++
        token.position.text
  | scannedAll count => "DEBUG driver: Scanned " ++ toString count ++ " tokens"
  | primary token =>
      "TRACE parser: primary at " ++ token.kind.name ++ " '" ++ token.lexeme ++ "'"
  | function name parameterCount =>
      "TRACE parser: function " ++ name.lexeme ++ " with " ++ toString parameterCount ++
        " parameters"
  | parsedAll expressionCount tokenCount =>
      "DEBUG parser: Parsed " ++ toString expressionCount ++
        " top-level expressions from " ++ toString tokenCount ++ " tokens"

end Event

end FrontEnd
