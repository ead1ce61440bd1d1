/-
Why a build did not succeed.

A fault keeps its cause; `message` words it.  The words of a tool that ended without
success are what it wrote on its error stream, or else its exit code.
-/
import MockServer.Number.Digits
import MockServer.Platform
import MockServer.Text.Blank

namespace MockServer.Build

/-- Why a build did not succeed. -/
inductive Fault where
  | unsupportedHost (host : Host)
  | noToolchain (expected : String)
  | unusableToolchain (detail : String)
  | setup (detail : String)
  | cancelled
  | workspace (detail : String)
  | generation (detail : String)
  | notStarted (program detail : String)
  | failed (code : Option Int) (errors : String)
  deriving DecidableEq, Repr

namespace Fault

/-- The wording of a tool that ended without success. -/
def failedMessage (code : Option Int) (errors : String) : String :=
  if Text.isBlankText errors then
    match code with
    | some code => "go exit " ++ String.ofList (Number.integer code)
    | none => "go exit (terminated by signal)"
  else Text.trim errors

/-- The wording of a fault. -/
def message : Fault → String
  | .unsupportedHost host => "unsupported platform: " ++ host.system ++ "/" ++ host.architecture
      ++ " (bundled toolchains cover windows and macOS on amd64/arm64)"
  | .noToolchain expected => "bundled Go toolchain not found; looked for " ++ expected
  | .unusableToolchain detail => "bundled Go toolchain is not usable: " ++ detail
  | .setup detail => detail
  | .cancelled => "build cancelled by user"
  | .workspace detail => "failed to prepare build workspace: " ++ detail
  | .generation detail => "failed to generate server program: " ++ detail
  | .notStarted program detail => "failed to start " ++ program ++ ": " ++ detail
  | .failed code errors => failedMessage code errors

end Fault
end MockServer.Build
