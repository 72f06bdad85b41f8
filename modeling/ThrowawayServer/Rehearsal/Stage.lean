import ThrowawayServer.Rehearsal.Machine
import ThrowawayServer.Supervisor.Lifecycle

/-!
# Rehearsing a supervised process

A stage is a machine with one process that a supervisor owns. Shutdown commands are not sent
anywhere: what becomes of each is laid down beforehand, and they are kept for inspection.
-/

set_option autoImplicit false

namespace ThrowawayServer

/-- What becomes of a shutdown command on a stage. -/
structure StagedReply where
  /-- The process is asked to terminate. -/
  terminates : Bool := false
  result : Except OsError CommandAck := .ok .closed

/-- A machine with the process of a supervisor. Times are in milliseconds. -/
structure Stage where
  machine : Machine
  /-- The number of the process, once there is one. -/
  pid : Option Nat := none
  /-- How the process ended, once that has been asked for and told. -/
  ending : Option ProcessEnd := none
  /-- The variables that the process gets besides its own. -/
  environment : Variables := []
  directory : FileNames := []
  /-- What the readers have seen and nobody has taken, in order. -/
  events : List StreamEvent := []
  /-- What becomes of the next commands. -/
  replies : List StagedReply := []
  /-- What becomes of all commands after those. -/
  laterReply : StagedReply := {}
  /-- The commands that were sent, in order. -/
  sent : List Message.Bytes := []

namespace Stage

/-- The number of the first process on a stage. -/
def firstPid : Nat := 1304969

/-- A stage with some files before anything has been started on it. -/
def fresh (files : FileTree) : Stage :=
  { machine := { nextPid := firstPid, files }
    environment := [("HOME", "/root"), ("PATH", "/usr/local/bin:/usr/bin:/bin")] }

def now (stage : Stage) : Nat := stage.machine.clock / 1000

/-- Runs the machine until something is the case or a time has come. -/
def runUntil (stage : Stage) (found : Machine → Bool) (deadline : Nat) : Stage :=
  { stage with machine := stage.machine.runUntil found (deadline * 1000) Machine.stepLimit }

/-- Lets time pass. -/
def sleep (time : Nat) (stage : Stage) : Stage :=
  stage.runUntil (fun _ => false) (stage.now + time)

def hasEnded (pid : Option Nat) (machine : Machine) : Bool :=
  pid.all machine.hasEnded

/-- Takes note of how the process ended, if it has ended. -/
def observe (stage : Stage) : Stage :=
  let ending := (stage.pid.bind stage.machine.process?).bind (·.ending)
  { stage with ending := stage.ending <|> ending }

def isAlive (stage : Stage) : Bool × Stage :=
  let stage := stage.observe
  (stage.pid.isSome && stage.ending.isNone, stage)

/-- Sends a signal to a process by its number. -/
def signal (pid : UInt32) (signal : Signal) (stage : Stage) : Except OsError Unit × Stage :=
  let deliver (target : Int) (signal : Signal) (machine : Machine) :=
    machine.signal target (Machine.signalNumber signal)
  let (result, machine) := sendSignal deliver pid signal stage.machine
  (result, { stage with machine })

/-- Sends a signal to the process itself. -/
def signalChild (number : Nat) (stage : Stage) : Except OsError Unit × Stage :=
  match stage.pid with
  | none => (.error .noSuchProcess, stage)
  | some pid =>
    let (result, machine) := stage.machine.signal pid number
    (result, { stage with machine })

/-- Takes a shutdown command. -/
def send (payload : Message.Bytes) (stage : Stage) : Except OsError CommandAck × Stage :=
  let reply := stage.replies.headD stage.laterReply
  let stage := { stage with replies := stage.replies.drop 1, sent := stage.sent ++ [payload] }
  (reply.result, if reply.terminates then (stage.signalChild 15).2 else stage)

/-- Whether a text holds a character that no path or argument can hold. -/
def holdsNull (text : String) : Bool := text.toList.contains '\x00'

def startDirectory (stage : Stage) (settings : SupervisorSettings) : Except OsError FileNames :=
  match settings.workingDir with
  | none => .ok stage.directory
  | some path =>
    match stage.machine.files.locate stage.directory path with
    | .error error => .error error
    | .ok names =>
      match stage.machine.files.entryAt names with
      | none => .error .notFound
      | some .directory => .ok names
      | some _ => .error .notADirectory

def startVariables (stage : Stage) (settings : SupervisorSettings) (directory : FileNames) :
    List (String × List Char) :=
  let bindings := stage.environment.putAll settings.env
  (bindings.put "PWD" (FileTree.pathText directory)).map fun (name, value) => (name, value.toList)

/-- Starts the process. -/
def spawn (settings : SupervisorSettings) (stage : Stage) : Except OsError Unit × Stage :=
  let texts := settings.executable :: settings.workingDir.toList ++ settings.args
  let words := settings.executable.toList :: settings.args.map String.toList
  let machine := stage.machine
  let launched : Except OsError (Activity × Option FileTree × Sinks) := do
    if texts.any holdsNull then throw (.other "nul byte found in provided data")
    let directory ← stage.startDirectory settings
    let base : Shell.State :=
      { scope := { bindings := stage.startVariables settings directory }
        directory
        sinks := [(1, .stream .standard), (2, .stream .error)] }
    let launch ← Launch.ofName machine.files directory settings.executable words
    let (launch, base) := match launch.wrapped? with
      | some (bindings, inner) =>
        ((machine.find (base.assignAll bindings) 5 inner).toOption).getD (launch, base)
      | none => (launch, base)
    let (activity, _, files) := machine.begin machine.nextPid launch base
    return (activity, files, base.sinks)
  match launched with
  | .error error => (.error error, stage)
  | .ok (activity, files, sinks) =>
    let pid := machine.nextPid
    let machine := machine.add 0 activity (Machine.forkTime + Machine.loadTime) sinks []
    let machine := { machine with files := files.getD machine.files }
    (.ok (), { stage with machine, pid := some pid })

/-- Takes note of all that the readers have seen. -/
def collect (stage : Stage) : Stage :=
  { stage with
    events := stage.events ++ stage.machine.events.reverse
    machine := { stage.machine with events := [] } }

/-- Takes what the readers have seen. -/
def takeEvents (stage : Stage) : List StreamEvent × Stage :=
  let stage := stage.collect
  (stage.events, { stage with events := [] })

/-- Takes the next thing that the readers see up to a time. -/
def nextEvent (deadline : Nat) (stage : Stage) : Option StreamEvent × Stage :=
  let stage := if stage.events.isEmpty
    then (stage.runUntil (fun machine => !machine.events.isEmpty) deadline).collect else stage
  match stage.events with
  | [] => (none, stage)
  | event :: events => (some event, { stage with events })

/-- What the readers see up to a time, but no more than some number of events. -/
def hearing (deadline : Nat) : Nat → Stage → Hearing Stage
  | 0, stage => .silent stage
  | limit + 1, stage =>
    match nextEvent deadline stage with
    | (none, stage) => .silent stage
    | (some event, stage) => .heard event stage fun _ => hearing deadline limit stage

/-- Waits for the end of the process. -/
def awaitExit (time : Nat) (stage : Stage) : Bool × Stage :=
  let stage := (stage.runUntil (hasEnded stage.pid) (stage.now + time)).observe
  (stage.ending.isSome, stage)

/-- How long the end of a process is waited for that has been asked for by all means. -/
def lifetime : Nat := 1000000

/-- Waits for the end of the process and tells how it ended. -/
def reap (stage : Stage) : Except OsError (Option Int) × Stage :=
  let (_, stage) := stage.awaitExit lifetime
  (.ok (stage.ending.bind ProcessEnd.code?), stage)

/-- Gives the reader of a stream some time to come to its end, and then stops it. -/
def drainStream (time : Nat) (which : OutputStream) (stage : Stage) : Stage :=
  let isOver (machine : Machine) : Bool :=
    (machine.stream which).isOver || (machine.stream which).reader.isStopped
  let stage := stage.runUntil isOver (stage.now + time)
  if isOver stage.machine then stage
  else { stage with machine := stage.machine.putStream which { reader := LineReader.stopped } }

/-- What a supervisor can do on a stage. -/
def host : ProcessHost Stage where
  now := now
  sleep := sleep
  isAlive := isAlive
  send := fun _ payload stage => stage.send payload
  signal := signal
  spawn := spawn
  pastEvents := takeEvents
  hearing := fun deadline => hearing deadline Machine.stepLimit
  terminate := signalChild 15
  awaitExit := awaitExit
  kill := signalChild 9
  reap := reap
  drain := fun time stage => (stage.drainStream time .standard).drainStream time .error

end Stage

end ThrowawayServer
