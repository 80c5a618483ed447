import FrontEnd.CommandLine

namespace FrontEnd.CommandLine

/-- The bytes of a file. -/
def readBytes (name : String) : IO (Except ReadFault ByteArray) := do
  try
    return .ok (← IO.FS.readBinFile name)
  catch fault =>
    match fault with
    | .noFileOrDirectory .. => return .error .missing
    | .inappropriateType .. => return .error .directory
    | other => return .error (.other (toString other))

/-- The file and the variables are read before the command begins, so that it is a function of
them. -/
def start (arguments : List String) : IO UInt32 := do
  let request := Request.ofArguments arguments
  let content ←
    match request with
    | .run { file := some name, .. } => readBytes name
    | _ => pure (.error .missing)
  let known ← ["NO_COLOR", "TERM", "RUST_LIB_BACKTRACE", "RUST_BACKTRACE"].mapM fun name => do
    return (name, ← IO.getEnv name)
  let environment := Environment.ofBytes (fun name => (known.lookup name).join) fun _ => content
  let exit := respond environment request
  IO.print exit.stdout
  IO.eprint exit.stderr
  return exit.code.toUInt32

end FrontEnd.CommandLine

def main (arguments : List String) : IO UInt32 :=
  FrontEnd.CommandLine.start arguments
