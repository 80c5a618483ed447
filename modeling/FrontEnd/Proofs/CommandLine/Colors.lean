import FrontEnd.CommandLine
import FrontEnd.Proofs.Output.RunLaw

namespace FrontEnd

namespace Diagnostic

end Diagnostic

namespace Run

end Run

namespace Environment

end Environment

namespace Settings

end Settings

namespace CommandLine

section

variable (settings : Settings) (lookup : String → Option String)
  (bytes : String → Except ReadFault ByteArray)

end

section

variable {settings : Settings} {environment : Environment} (trace : String)

end

example :
    let missing := fun _ : String => Except.error ReadFault.missing
    let lookup := fun name => if name = "RUST_BACKTRACE" then some "1" else none
    (respond (.ofBytes lookup missing) (.ofArguments ["gone.fem"]) "\n\nStack backtrace:").stderr =
      "Error: No such file or directory (os error 2)\n\nStack backtrace:\n" := by
  decide

end CommandLine

end FrontEnd
