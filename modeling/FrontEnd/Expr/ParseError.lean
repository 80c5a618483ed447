import FrontEnd.Diagnostic.Basic
import FrontEnd.Token.Basic

namespace FrontEnd

/-- What an expression must go on with. -/
inductive Expectation where
  | expression
  | functionName
  | parameterName
  | leftParen (after : String)
  | rightParen (after : String)
  | bodyBrace
  | closingBrace
  deriving DecidableEq, Repr

namespace Expectation

/-- A token of this kind meets the expectation. -/
def kind : Expectation → Kind
  | expression => .number
  | functionName => .identifier
  | parameterName => .identifier
  | leftParen _ => .leftParen
  | rightParen _ => .rightParen
  | bodyBrace => .leftBrace
  | closingBrace => .rightBrace

def message : Expectation → String
  | expression => "Expect expression."
  | functionName => "Expect function name."
  | parameterName => "Expect parameter name."
  | leftParen after => "Expect '(' after " ++ after ++ "."
  | rightParen after => "Expect ')' after " ++ after ++ "."
  | bodyBrace => "Expect '\x7b' before function body."
  | closingBrace => "Expect '\x7d' after block."

end Expectation

/-- Why a list of tokens is no program. Nothing can be assigned to. -/
inductive ParseFault where
  | expected (what : Expectation)
  | invalidTarget
  deriving DecidableEq, Repr

def ParseFault.message : ParseFault → String
  | expected what => what.message
  | invalidTarget => "Invalid assignment target."

/-- A fault and the token it was found at. There is no such token at the end of a list. -/
structure ParseError where
  fault : ParseFault
  token : Option Token
  deriving DecidableEq, Repr

namespace ParseError

/-- An error stands where its token stands. -/
def diagnostic (error : ParseError) : Diagnostic :=
  match error.token with
  | some token => (Diagnostic.error error.fault.message).placed token.position
  | none => Diagnostic.error error.fault.message

end ParseError

end FrontEnd
