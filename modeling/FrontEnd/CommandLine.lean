/-
This file answers a command line from the variables and the files that the command can see.
-/

import FrontEnd.CommandLine.Arguments
import FrontEnd.Run

namespace FrontEnd

/-- Why a file gives no source text. -/
inductive ReadFault where
  | missing
  | directory
  | notText
  | other (text : String)
  deriving DecidableEq, Repr

def ReadFault.text : ReadFault → String
  | missing => "No such file or directory (os error 2)"
  | directory => "Is a directory (os error 21)"
  | notText => "stream did not contain valid UTF-8"
  | other text => text

/-- What a command sees of the world: variables and files. -/
structure Environment where
  lookup : String → Option String
  file : String → Except ReadFault String

namespace Environment

/-- The text of a file, whose bytes have to be UTF-8. -/
def decode (bytes : ByteArray) : Except ReadFault String :=
  match String.fromUTF8? bytes with
  | some text => .ok text
  | none => .error .notText

/-- The environment of some variables and of files that hold bytes. -/
def ofBytes (lookup : String → Option String) (bytes : String → Except ReadFault ByteArray) :
    Environment :=
  ⟨lookup, fun name => bytes name >>= decode⟩

/-- Whether a trace of the calls is asked for behind an error that ends the command. Of the two
variables that can ask for it the one for libraries decides if it is set. -/
def wantsTrace (environment : Environment) : Bool :=
  match environment.lookup "RUST_LIB_BACKTRACE" with
  | some value => value ≠ "0"
  | none => (environment.lookup "RUST_BACKTRACE").any (· ≠ "0")

/-- The part of a trace that is shown. -/
def shown (environment : Environment) (trace : String) : String :=
  if environment.wantsTrace then trace else ""

end Environment

/-- A fault is reported by its text, without colours, and by a trace behind it. -/
def ReadFault.report (fault : ReadFault) (trace : String) : String :=
  "Error: " ++ fault.text ++ trace ++ "\n"

/-- What a command leaves behind. -/
structure Exit where
  code : Nat
  stdout : String
  stderr : String
  deriving DecidableEq, Repr

/-- A set variable `NO_COLOR` forbids colours. An automatic choice asks for a terminal that is
known and not dumb. -/
def Settings.style (settings : Settings) (environment : Environment) : Style :=
  if (environment.lookup "NO_COLOR").isSome then .plain
  else
    match settings.color.getD .auto with
    | .always => .ansi
    | .never => .plain
    | .auto =>
        match environment.lookup "TERM" with
        | none => .plain
        | some terminal => if terminal = "dumb" then .plain else .ansi

namespace CommandLine

def helpText : String :=
  "Scan and parse FemCode source, printing the syntax tree\n\n" ++
    "Usage: femcode [OPTIONS] [FILE]\n\n" ++
    "Arguments:\n" ++
    "  [FILE]  Source file. Runs a built-in sample program when omitted\n\n" ++
    "Options:\n" ++
    "      --tokens         Also print the token stream\n" ++
    "      --color <COLOR>  When to colorize diagnostics. `NO_COLOR` always turns colors off " ++
    "[default: auto] [possible values: auto, always, never]\n" ++
    "  -h, --help           Print help\n"

/-- The program that settings name, with what is printed before it runs. -/
def source (settings : Settings) (environment : Environment) :
    Except ReadFault (String × String) :=
  match settings.file with
  | some name => (environment.file name).map fun source => ("", source)
  | none => .ok ("Running sample program:" ++ Run.sample ++ "\n", Run.sample)

/-- The exit of a run. What it wrote stays written when it fails. -/
def finish (style : Style) (banner : String) (run : Run) : Exit :=
  let stdout := banner ++ run.sink.text
  match run.result with
  | .ok _ => ⟨0, stdout, ""⟩
  | .error error => ⟨1, stdout, String.join (error.report style)⟩

/-- The trace is the one that the system has of the calls of this command. -/
def execute (settings : Settings) (environment : Environment) (trace : String) : Exit :=
  match source settings environment with
  | .error fault => ⟨1, "", fault.report (environment.shown trace)⟩
  | .ok (banner, source) =>
      finish (settings.style environment) banner
        (Run.ofSource source settings.listing .unlimited)

/-- A command line that is not valid is answered by a notice on how to use the command. A system may
have no trace of the calls to show. -/
def respond (environment : Environment) (request : Request) (trace : String := "") : Exit :=
  match request with
  | .help => ⟨0, helpText, ""⟩
  | .invalid => ⟨2, "", "<usage>"⟩
  | .run settings => execute settings environment trace

end CommandLine

end FrontEnd
