import ThrowawayServer.Process.OsError
import ThrowawayServer.Shutdown.Flag
import ThrowawayServer.Startup.Classifier
import ThrowawayServer.Supervisor.Settings
import ThrowawayServer.Text.Duration

/-!
# States of a supervisor

A supervisor leads one process from its start to its end and then stays where it is. `Supervisor` is
all that it knows between two calls.
-/

set_option autoImplicit false

namespace ThrowawayServer

def exitCodeText : Option Int → String
  | none => "None"
  | some code => s!"Some({code})"

/-- How far a supervisor has come with its process. -/
inductive SupervisorState where
  | notStarted
  /-- There is a process, but nothing is known about its start. -/
  | starting
  | startupFailed
  | running
  | stopping
  /-- The process has ended with a code, or without one if a signal ended it. -/
  | stopped (code : Option Int)
  deriving DecidableEq, Repr

namespace SupervisorState

/-- Whether the process is up. -/
def isRunning : SupervisorState → Bool
  | .running => true
  | _ => false

/-- Whether the supervisor will not leave this state. -/
def isTerminal : SupervisorState → Bool
  | .startupFailed | .stopped _ => true
  | _ => false

def toText : SupervisorState → String
  | .notStarted => "NotStarted"
  | .starting => "Starting"
  | .startupFailed => "StartupFailed"
  | .running => "Running"
  | .stopping => "Stopping"
  | .stopped code => s!"Stopped({exitCodeText code})"

end SupervisorState

/-- Why a process was not started or stopped. Each case begins with the name of the process. -/
inductive SuperviseError where
  | spawnFailed (name : String) (error : OsError)
  | startupFailed (name : String) (text : String)
  /-- The time in milliseconds has passed without a sign of readiness. -/
  | startupTimeout (name : String) (timeout : Nat) (output : String)
  | notRunning (name : String)
  | alreadyStarted (name : String)
  | unreaped (name : String) (error : OsError)
  deriving DecidableEq, Repr

/-- The wording for a process that was not started or stopped. -/
def SuperviseError.message : SuperviseError → String
  | .spawnFailed name error => s!"Failed to spawn process '{name}': {error.message}"
  | .startupFailed name text => s!"Process '{name}' failed to start: {text}"
  | .startupTimeout name timeout output =>
    s!"Process '{name}' was not ready within {Text.duration timeout}, output:\n{output}"
  | .notRunning name => s!"Process '{name}' is not running"
  | .alreadyStarted name => s!"Process '{name}' was already started"
  | .unreaped name error => s!"Failed to reap process '{name}': {error.message}"

/-- A process that has reported that it is ready. -/
structure RunningProcess where
  /-- The process number that the process printed. -/
  pid : ReportedPid
  /-- The time that it was given to start, in milliseconds. -/
  startupTimeout : Nat
  /-- What it has printed up to the sign of readiness. -/
  startupOutput : String
  deriving DecidableEq, Repr

/-- What is known about one process from its start to its end. -/
structure Supervisor where
  settings : SupervisorSettings
  state : SupervisorState := .notStarted
  /-- There while the process is running. -/
  process : Option RunningProcess := none
  /-- The flag of the process, which others may hold longer than the process lives. -/
  flag : Option ShutdownFlag := none
  deriving DecidableEq, Repr

namespace Supervisor

def name (supervisor : Supervisor) : String := supervisor.settings.name

/-- Marks the flag of the process, and tells whether this was the first time. -/
def mark (supervisor : Supervisor) : Option Bool × Supervisor :=
  match supervisor.flag with
  | none => (none, supervisor)
  | some flag => (some flag.mark.1, { supervisor with flag := some flag.mark.2 })

/-- Whether a shutdown command is known to have reached the process on another way. -/
def isShutDown (supervisor : Supervisor) : Bool :=
  supervisor.flag.any (·.isMarked)

end Supervisor

end ThrowawayServer
