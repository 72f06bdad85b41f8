import ThrowawayServer.Shutdown.Escalation
import ThrowawayServer.Supervisor.State

/-!
# Starting and stopping a process

A `ProcessHost` is what a supervisor can do with its process. `start` waits until the output of the
process settles how the start went, and ends a process that did not get ready before it returns.
`stop` escalates until the process is gone. Either is a function of what the host answers.
-/

set_option autoImplicit false

namespace ThrowawayServer

/-- All that happens on the streams up to some time, one thing after another. With each event comes
the state after it; what happens later is told to those who go on listening. -/
inductive Hearing (σ : Type) where
  | silent (last : σ)
  | heard (event : StreamEvent) (next : σ) (later : Unit → Hearing σ)

/-- What a supervisor can see of its process and do with it. Times are in milliseconds. -/
structure ProcessHost (σ : Type) extends ProcessWorld σ where
  /-- Starts the process with both of its output streams connected. -/
  spawn : SupervisorSettings → σ → Except OsError Unit × σ
  /-- What has happened on the streams since the last question, in order. -/
  pastEvents : σ → List StreamEvent × σ
  /-- What happens on the streams from now up to a time. -/
  hearing : Nat → σ → Hearing σ
  /-- Asks the process itself to end, whatever number it printed. -/
  terminate : σ → Except OsError Unit × σ
  /-- Whether the process ends within a time. -/
  awaitExit : Nat → σ → Bool × σ
  /-- Ends the process itself by force. -/
  kill : σ → Except OsError Unit × σ
  /-- Waits for the end of the process and takes its exit code. -/
  reap : σ → Except OsError (Option Int) × σ
  /-- Gives the readers of both streams this much time each to come to their end. -/
  drain : Nat → σ → σ

/-- Listens until it is settled how the start went, or to the end. -/
def Hearing.listen {σ : Type} : Hearing σ → Classifier → σ → Classifier × σ
  | hearing, classifier, state =>
    if classifier.verdict.isSome then (classifier, state)
    else
      match hearing with
      | .silent last => (classifier, last)
      | .heard event next later => (later ()).listen (classifier.step event) next

namespace ProcessHost

variable {σ : Type}

/-- Connects readers to both streams. The first one may read before there is the second one. -/
def attachReaders (host : ProcessHost σ) (classifier : Classifier) (state : σ) : Classifier × σ :=
  let (events, state) := host.pastEvents state
  ((classifier.attach.run events).attach, state)

/-- Takes in what happens on the streams until it settles how the start went or the time has come. -/
def awaitVerdict (host : ProcessHost σ) (deadline : Nat) (classifier : Classifier) (state : σ) :
    Classifier × σ :=
  (host.hearing deadline state).listen classifier state

/-- How long a reader may go on after its process has ended. -/
def drainTime : Nat := 200

/-- Ends a process by force and waits for its end. -/
def destroy (host : ProcessHost σ) (state : σ) : σ :=
  match host.kill state with
  | (.ok (), state) => (host.reap state).2
  | (.error _, state) => state

/-- Ends a process whose start has failed, and takes in what it still prints. -/
def abort (host : ProcessHost σ) (settings : SupervisorSettings) (classifier : Classifier)
    (state : σ) : Classifier × σ :=
  let (_, state) := host.terminate state
  let (exited, state) := host.awaitExit settings.stepTimeout state
  let state := if exited then (host.reap state).2 else host.destroy state
  let (events, state) := host.pastEvents (host.drain drainTime state)
  (classifier.run events, state)

end ProcessHost

namespace SupervisorSettings

/-- The text for a process that has printed nothing at all. -/
def silentExit : String := "process exited before reporting readiness"

/-- The error for a start that a wait gave up on; `output` is all that the process has printed. -/
def startupError (settings : SupervisorSettings) (outcome : StartupOutcome) (output : String) :
    SuperviseError :=
  match outcome with
  | .failed text => .startupFailed settings.name (String.ofList text)
  | .closed => .startupFailed settings.name (if output.isEmpty then silentExit else output)
  | .notFound | .ready => .startupTimeout settings.name settings.startupTimeout output

end SupervisorSettings

namespace Supervisor

variable {σ : Type}

def withProcess (supervisor : Supervisor) (process : RunningProcess) : Supervisor :=
  { supervisor with state := .running, process := some process, flag := some {} }

/-- Starts the process and waits until it is ready. -/
def start (host : ProcessHost σ) (supervisor : Supervisor) (state : σ) :
    Except SuperviseError RunningProcess × Supervisor × σ :=
  let settings := supervisor.settings
  if supervisor.state ≠ .notStarted then (.error (.alreadyStarted settings.name), supervisor, state)
  else
    let supervisor := { supervisor with state := .starting }
    let failed := { supervisor with state := .startupFailed }
    match host.spawn settings state with
    | (.error error, state) => (.error (.spawnFailed settings.name error), failed, state)
    | (.ok (), state) =>
      let (classifier, state) := host.attachReaders { patterns := settings.patterns } state
      let deadline := host.now state + settings.startupTimeout
      let (classifier, state) := host.awaitVerdict deadline classifier state
      match classifier.outcome with
      | .ready =>
        let process : RunningProcess :=
          { pid := classifier.pid
            startupTimeout := settings.startupTimeout
            startupOutput := classifier.output }
        (.ok process, supervisor.withProcess process, state)
      | outcome =>
        let (classifier, state) := host.abort settings classifier state
        (.error (settings.startupError outcome classifier.output), failed, state)

def checkAlive (host : ProcessHost σ) (supervisor : Supervisor) (state : σ) : Bool × σ :=
  if supervisor.process.isSome then host.isAlive state else (false, state)

/-- Whether there is a process and it is alive after it has been given time to die. It is checked again
after each interval, and `polls` bounds the number of intervals. -/
def awaitDeath (host : ProcessHost σ) (supervisor : Supervisor) (interval : Nat) :
    Nat → σ → Bool × σ
  | 0, state => supervisor.checkAlive host state
  | polls + 1, state =>
    let (alive, state) := supervisor.checkAlive host state
    if alive then awaitDeath host supervisor interval polls (host.sleep interval state)
    else (false, state)

def shutdownPlan (supervisor : Supervisor) (process : RunningProcess) : ShutdownPlan where
  address := supervisor.settings.address
  pid := process.pid
  alreadyShutDown := supervisor.isShutDown
  stepTimeout := supervisor.settings.stepTimeout

/-- Brings a running process to its end, by force if no step of the shutdown has done it. -/
def bringDown (host : ProcessHost σ) (supervisor : Supervisor) (process : RunningProcess)
    (state : σ) : Except OsError (Option Int) × σ :=
  let (report, state) := host.escalate (supervisor.shutdownPlan process) state
  let state := if report.exited then state else (host.kill state).2
  let (result, state) := host.reap state
  (result, host.drain ProcessHost.drainTime state)

/-- Stops the process and tells its exit code. A process that has been stopped keeps its code. -/
def stop (host : ProcessHost σ) (supervisor : Supervisor) (state : σ) :
    Except SuperviseError (Option Int) × Supervisor × σ :=
  match supervisor.state, supervisor.process with
  | .stopped code, _ => (.ok code, supervisor, state)
  | .running, some process =>
    let supervisor := { supervisor with state := .stopping, process := none }
    match supervisor.bringDown host process state with
    | (.ok code, state) => (.ok code, { supervisor with state := .stopped code }, state)
    | (.error error, state) =>
      (.error (.unreaped supervisor.name error), { supervisor with state := .stopped none }, state)
  | _, _ => (.error (.notRunning supervisor.name), supervisor, state)

end Supervisor

end ThrowawayServer
