import ThrowawayServer.Run.Config
import ThrowawayServer.Startup.Patterns

/-!
# Settings of a supervisor

What a supervisor needs to start one process and to stop it again, and how a run configuration leads to
it.
-/

set_option autoImplicit false

namespace ThrowawayServer

/-- How one process is started and stopped. Times are in milliseconds. -/
structure SupervisorSettings where
  /-- Stands before log lines and in errors. -/
  name : String
  executable : String
  args : List String := []
  /-- Variables on top of the supervisor's own. -/
  env : Variables := []
  workingDir : Option String := none
  /-- Where the server listens, and where shutdown commands go. -/
  address : SocketAddress
  patterns : StartupPatterns := {}
  startupTimeout : Nat := 20000
  /-- How long a step of the shutdown is waited for. -/
  stepTimeout : Nat := 5000
  deriving DecidableEq, Repr

/-- The settings for running an executable with a configuration. -/
def RunConfig.supervisorSettings (config : RunConfig) (executable : String) :
    SupervisorSettings where
  name := config.label
  executable
  args := config.arguments
  env := config.env
  address := config.address
  patterns := config.program.startupPatterns
  startupTimeout := config.startupTimeoutMs.toNat
  stepTimeout := config.stepTimeoutMs.toNat

end ThrowawayServer
