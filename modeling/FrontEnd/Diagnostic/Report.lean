import FrontEnd.Diagnostic.Basic
import FrontEnd.Output.Sink

namespace FrontEnd

/-- How a report is shown: as bare text or with terminal colours. -/
inductive Style where
  | plain
  | ansi
  deriving DecidableEq, Repr

namespace Severity

/-- Errors are red and warnings yellow. -/
def paint : Severity → String
  | error => "\x1b[31m"
  | warning => "\x1b[33m"

end Severity

/-- This sequence ends all colours. -/
def clearPaint : String := "\x1b[0m"

namespace Diagnostic

/-- The pieces that show one diagnostic. A colour starts from a cleared state and is cleared
after the text. -/
def report (style : Style) (diagnostic : Diagnostic) : List String :=
  match style with
  | .plain => [diagnostic.text]
  | .ansi => [clearPaint, diagnostic.severity.paint, diagnostic.text, clearPaint]

end Diagnostic

namespace Diagnostics

/-- Each diagnostic of a collection stands on a line of its own. -/
def report (style : Style) (diagnostics : Diagnostics) : List String :=
  diagnostics.flatMap fun diagnostic => diagnostic.report style ++ ["\n"]

end Diagnostics

end FrontEnd
