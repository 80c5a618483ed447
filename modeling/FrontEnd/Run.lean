/-
This file runs a source text. A run scans, lists the tokens if asked to, parses, and writes one
line for each expression.
-/

import FrontEnd.Diagnostic.Report
import FrontEnd.Expr.Parse
import FrontEnd.Token.Scan
import FrontEnd.Token.Unknown

namespace FrontEnd

/-- Why a run failed. -/
inductive RunError where
  | unknownCharacters (warnings : Diagnostics)
  | parse (error : Diagnostic)
  | write (fault : WriteFault)
  deriving DecidableEq, Repr

namespace RunError

def text : RunError → String
  | unknownCharacters warnings => warnings.text
  | parse error => error.text
  | write fault => "Error: " ++ fault.text

def diagnostics : RunError → Diagnostics
  | unknownCharacters warnings => warnings
  | parse error => [error]
  | write fault => [.error fault.text]

def report (style : Style) (error : RunError) : List String :=
  Diagnostics.report style error.diagnostics

end RunError

/-- What a run leaves behind: its result, the sink it wrote to, and its log. -/
structure Run where
  result : Except RunError (List Expr)
  sink : Sink
  log : List Event

namespace Run

/-- A program that is run when there is no other. -/
def sample : String :=
  "\nfun add(a, b) \x7b\n  a + b\n\x7d\n\n" ++
    "fun area(width, height) \x7b\n  width * height\n\x7d\n\n" ++
    "(1 + 2) * 3 == 9\nx + 20 * 2 >= y - 1\n"

/-- The expressions are written only after the last of them has been read. -/
def parseAndWrite (tokens : List Token) (sink : Sink) : Run :=
  let attempt := Parse.program tokens
  match attempt.outcome with
  | .error refusal => ⟨.error (.parse refusal.error.diagnostic), sink, attempt.log⟩
  | .ok expressions =>
      match sink.putAll (lines (expressions.map Expr.text)) with
      | (none, sink) => ⟨.ok expressions, sink, attempt.log⟩
      | (some fault, sink) => ⟨.error (.write fault), sink, attempt.log⟩

/-- Tokens are listed, if at all, before they are parsed. -/
def listAndParse (listing : Bool) (tokens : List Token) (sink : Sink) : Run :=
  match sink.putAll (if listing then lines (tokens.map Token.listing) else []) with
  | (none, sink) => parseAndWrite tokens sink
  | (some fault, sink) => ⟨.error (.write fault), sink, []⟩

/-- Nothing is written or parsed if the source has unknown characters. -/
def ofSource (source : String) (listing : Bool) (sink : Sink) : Run :=
  let scan := Scan.ofString source
  let log := scan.log ++ [.scannedAll scan.tokens.length]
  match Token.unknownCharacters scan.tokens with
  | [] =>
      let run := listAndParse listing scan.tokens sink
      { run with log := log ++ run.log }
  | warnings => ⟨.error (.unknownCharacters warnings), sink, log⟩

end Run

end FrontEnd
