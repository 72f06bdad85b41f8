import ThrowawayServer.Net.IpAddress
import ThrowawayServer.Process.Signal
import ThrowawayServer.Shutdown.Message
import ThrowawayServer.Startup.Classifier

/-!
# Escalating shutdown

A server is stopped by steps that are tried in order, from a shutdown command to a forceful kill. Before
every step the process is checked, and after every step that was delivered it is given a limited time
to exit. Commands are sent only to a loopback address and only if none was sent on another way; signals
only to the process number that the server printed.

What the escalation can see and do is a `ProcessWorld` over some state; everything else here is a
function of what that world answers.
-/

set_option autoImplicit false

namespace ThrowawayServer

inductive ShutdownStep where
  | legacyCommand
  | command
  | kill
  | terminate
  | killRetry
  deriving DecidableEq, Repr

inductive ShutdownAction where
  | send (payload : Message.Bytes)
  | signal (signal : Signal)
  deriving DecidableEq, Repr

namespace ShutdownStep

/-- All steps in the order in which they are tried. -/
def escalation : List ShutdownStep := [.legacyCommand, .command, .kill, .terminate, .killRetry]

def name : ShutdownStep → String
  | .legacyCommand => "legacy shutdown command"
  | .command => "shutdown command"
  | .kill => "kill"
  | .terminate => "terminate"
  | .killRetry => "kill retry"

def action : ShutdownStep → ShutdownAction
  | .legacyCommand => .send Message.legacyShutdown
  | .command => .send Message.shutdown
  | .kill | .killRetry => .signal .kill
  | .terminate => .signal .terminate

end ShutdownStep

/-- How a server reacts to a command. A refused connection and one that is closed count as accepted,
since a server that is going down looks like that. -/
inductive CommandAck where
  | replied
  | closed
  | refused
  deriving DecidableEq, Repr

/-- What an escalation can see and do. Times are in milliseconds. -/
structure ProcessWorld (σ : Type) where
  now : σ → Nat
  sleep : Nat → σ → σ
  isAlive : σ → Bool × σ
  send : SocketAddress → Message.Bytes → σ → Except OsError CommandAck × σ
  signal : UInt32 → Signal → σ → Except OsError Unit × σ
  /-- How many checks a wait that begins here gets in beyond those that its interval allows for. With no
  interval between the checks it is only the world that limits them. -/
  spareChecks : σ → Nat := fun _ => 0

structure ShutdownPlan where
  /-- Where the server listens. -/
  address : SocketAddress
  /-- The process number that the server printed. -/
  pid : ReportedPid
  /-- Whether a shutdown command was sent on another way. -/
  alreadyShutDown : Bool := false
  /-- How long the process is given to exit after a step that was delivered. -/
  stepTimeout : Nat
  pollInterval : Nat := 50
  deriving DecidableEq, Repr

/-- Why a step is not tried. -/
inductive SkipReason where
  | alreadyShutDown
  | notLoopback
  | unknownPid
  deriving DecidableEq, Repr

def SkipReason.name : SkipReason → String
  | .alreadyShutDown => "already_shut_down"
  | .notLoopback => "not_loopback"
  | .unknownPid => "unknown_pid"

structure EscalationReport where
  /-- The steps that were tried, whether they were delivered or not. -/
  attempted : List ShutdownStep := []
  skipped : List (ShutdownStep × SkipReason) := []
  /-- The step after which the process was seen to exit. -/
  stoppedAfter : Option ShutdownStep := none
  /-- Whether the process was gone at the end. -/
  exited : Bool := false
  deriving DecidableEq, Repr

namespace ShutdownPlan

/-- Why no command is sent, if none is. -/
def commandSkip? (plan : ShutdownPlan) : Option SkipReason :=
  if plan.alreadyShutDown then some .alreadyShutDown
  else if !plan.address.ip.isLoopback then some .notLoopback
  else none

/-- Why a step is not tried, if it is not. -/
def skip? (plan : ShutdownPlan) (step : ShutdownStep) : Option SkipReason :=
  match step.action, plan.pid with
  | .send _, _ => plan.commandSkip?
  | .signal _, none => some .unknownPid
  | .signal _, some _ => none

/-- After how many intervals the time of a wait has passed: one more than fit into it. -/
def polls (plan : ShutdownPlan) : Nat := plan.stepTimeout / plan.pollInterval + 1

end ShutdownPlan

namespace ProcessWorld

variable {σ : Type}

/-- Polls the process until it is gone or the deadline has come. `polls` bounds the number of sleeps. -/
def pollUntil (world : ProcessWorld σ) (interval deadline : Nat) : Nat → σ → Bool × σ
  | 0, state =>
    let (alive, state) := world.isAlive state
    (!alive, state)
  | polls + 1, state =>
    let (alive, state) := world.isAlive state
    if !alive then (true, state)
    else if deadline ≤ world.now state then (false, state)
    else pollUntil world interval deadline polls (world.sleep interval state)

/-- Whether the process exits within the time that a step is given. -/
def waitForExit (world : ProcessWorld σ) (plan : ShutdownPlan) (state : σ) : Bool × σ :=
  let deadline := world.now state + plan.stepTimeout
  pollUntil world plan.pollInterval deadline (plan.polls + world.spareChecks state) state

/-- Does what a step does, and whether it was delivered. -/
def deliver (world : ProcessWorld σ) (plan : ShutdownPlan) (step : ShutdownStep) (state : σ) :
    Bool × σ :=
  match step.action, plan.pid with
  | .send payload, _ =>
    let (result, state) := world.send plan.address payload state
    (result.isOk, state)
  | .signal signal, some pid =>
    let (result, state) := world.signal pid signal state
    (result.isOk, state)
  | .signal _, none => (false, state)

/-- Tries steps in order until the process has exited. -/
def climb (world : ProcessWorld σ) (plan : ShutdownPlan) :
    List ShutdownStep → EscalationReport → σ → EscalationReport × σ
  | [], report, state =>
    let (alive, state) := world.isAlive state
    ({ report with exited := !alive }, state)
  | step :: steps, report, state =>
    let (alive, state) := world.isAlive state
    if !alive then ({ report with exited := true }, state)
    else
      match plan.skip? step with
      | some reason =>
        climb world plan steps { report with skipped := report.skipped ++ [(step, reason)] } state
      | none =>
        let (delivered, state) := world.deliver plan step state
        let report := { report with attempted := report.attempted ++ [step] }
        if delivered then
          let (exited, state) := world.waitForExit plan state
          if exited then ({ report with stoppedAfter := some step, exited := true }, state)
          else climb world plan steps report state
        else climb world plan steps report state

/-- Gives a process that was asked to shut down on another way the time for it. -/
def awaitEarlierCommand (world : ProcessWorld σ) (plan : ShutdownPlan) (state : σ) : σ :=
  if plan.alreadyShutDown then
    let (alive, state) := world.isAlive state
    if alive then (world.waitForExit plan state).2 else state
  else state

/-- Stops a process by all steps that it takes. -/
def escalate (world : ProcessWorld σ) (plan : ShutdownPlan) (state : σ) : EscalationReport × σ :=
  world.climb plan ShutdownStep.escalation {} (world.awaitEarlierCommand plan state)

end ProcessWorld

end ThrowawayServer
