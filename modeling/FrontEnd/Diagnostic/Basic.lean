import FrontEnd.Text.Position

namespace FrontEnd

inductive Severity where
  | error
  | warning
  deriving DecidableEq, Repr

namespace Severity

def name : Severity → String
  | error => "Error"
  | warning => "Warning"

def ofName? (name : String) : Option Severity :=
  [error, warning].find? fun severity => severity.name = name

end Severity

/-- A message about a source text. Line and column may each be unknown. -/
structure Diagnostic where
  severity : Severity
  message : String
  line : Option Nat := none
  column : Option Nat := none
  deriving DecidableEq, Repr

namespace Diagnostic

def error (message : String) : Diagnostic := ⟨.error, message, none, none⟩

def warning (message : String) : Diagnostic := ⟨.warning, message, none, none⟩

def placed (diagnostic : Diagnostic) (position : Position) : Diagnostic :=
  { diagnostic with line := some position.line, column := some position.column }

def isError (diagnostic : Diagnostic) : Bool :=
  diagnostic.severity = .error

/-- A place is shown only if both its line and its column are known. -/
def placeText (diagnostic : Diagnostic) : String :=
  match diagnostic.line, diagnostic.column with
  | some line, some column => " at line " ++ toString line ++ ", column " ++ toString column
  | _, _ => ""

def text (diagnostic : Diagnostic) : String :=
  diagnostic.severity.name ++ ": " ++ diagnostic.message ++ diagnostic.placeText

end Diagnostic

/-- Diagnostics stand in the order in which they were found. -/
abbrev Diagnostics := List Diagnostic

namespace Diagnostics

def hasErrors (diagnostics : Diagnostics) : Bool :=
  diagnostics.any Diagnostic.isError

def text (diagnostics : Diagnostics) : String :=
  "\n".intercalate (diagnostics.map Diagnostic.text)

end Diagnostics

end FrontEnd
