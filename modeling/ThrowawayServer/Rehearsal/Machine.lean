import ThrowawayServer.Process.Signal
import ThrowawayServer.Rehearsal.Launch
import ThrowawayServer.Startup.LineReader

/-!
# Rehearsed processes

A machine runs processes on a clock of its own: the process whose next step is due first takes it, and
the clock moves on to that time. The output streams of the first process are read as they are written;
a stream is at its end when no process holds it any more.
-/

set_option autoImplicit false

namespace ThrowawayServer

inductive ProcessEnd where
  | exited (code : Nat)
  | signalled (number : Nat)
  deriving DecidableEq, Repr

namespace ProcessEnd

/-- The code of a process that was not ended by a signal. -/
def code? : ProcessEnd → Option Int
  | .exited code => some code
  | .signalled _ => none

/-- How a shell sees the end of a process. -/
def status : ProcessEnd → Nat
  | .exited code => code
  | .signalled number => 128 + number

end ProcessEnd

inductive Activity where
  | shell (state : Shell.State)
  /-- A shell waits for another process, and for the text that the process puts together. -/
  | awaiting (state : Shell.State) (process : Nat) (buffer : Option Nat)
  /-- A shell waits for processes in the background, or for a signal. -/
  | awaitingJobs (state : Shell.State) (jobs : Option (List Nat))
  /-- A program has still to print, and then to wait until it ends. -/
  | utility (prints : List (Nat × List UInt8)) (duration : Option Nat) (status : Nat)
  /-- A program prints the same again and again. -/
  | endless (bytes : List UInt8)

/-- A process, as long as anyone can ask how it ended. -/
structure Process where
  pid : Nat
  parent : Nat
  activity : Activity
  /-- When the next step is due, in microseconds. -/
  readyAt : Nat
  /-- Where the descriptors of a program lead. -/
  sinks : Sinks := []
  /-- The signals that a program ignores. -/
  ignored : List Nat := []
  ending : Option ProcessEnd := none

namespace Process

def isLive (process : Process) : Bool := process.ending.isNone

def shell? (process : Process) : Option Shell.State :=
  match process.activity with
  | .shell state | .awaiting state _ _ | .awaitingJobs state _ => some state
  | .utility _ _ _ | .endless _ => none

/-- The process with the shell that it runs changed. -/
def changeShell (f : Shell.State → Shell.State) (process : Process) : Process :=
  match process.activity with
  | .shell state => { process with activity := .shell (f state) }
  | .awaiting state child buffer => { process with activity := .awaiting (f state) child buffer }
  | .awaitingJobs state jobs => { process with activity := .awaitingJobs (f state) jobs }
  | .utility _ _ _ | .endless _ => process

/-- Whether the process can write to a sink, now or later. -/
def holds (process : Process) (sink : Sink) : Bool :=
  process.isLive &&
    match process.shell? with
    | some state => state.allSinks.contains sink
    | none => (process.sinks.map (·.2)).contains sink

/-- What the process does on a signal: nothing, run an action, or end. -/
def disposition (process : Process) (number : Nat) : Option (List Char) :=
  match process.shell? with
  | some state => state.handlers.lookup number
  | none => if process.ignored.contains number then some [] else none

end Process

structure ReadStream where
  reader : LineReader := {}
  isOver : Bool := false
  /-- When writing to the stream begins to fail, if the reader has stopped before its end. -/
  brokenAt : Option Nat := none
  deriving DecidableEq, Repr

/-- A text that is put together piece by piece. -/
structure TextBuffer where
  /-- The pieces, the latest first. -/
  pieces : List (List UInt8) := []
  size : Nat := 0
  deriving DecidableEq, Repr

namespace TextBuffer

/-- How much a text can hold before its writers are told that nobody wants more. -/
def capacity : Nat := 400000

/-- The text with another piece. -/
def add (buffer : TextBuffer) (bytes : List UInt8) : TextBuffer :=
  { pieces := bytes :: buffer.pieces, size := buffer.size + bytes.length }

def bytes (buffer : TextBuffer) : List UInt8 := buffer.pieces.reverse.flatten

end TextBuffer

/-- Processes with the files that they work on. Times are in microseconds. -/
structure Machine where
  clock : Nat := 0
  processes : List Process := []
  nextPid : Nat
  buffers : List TextBuffer := []
  files : FileTree
  standard : ReadStream := {}
  error : ReadStream := {}
  /-- What the readers have seen and nobody has taken, the latest first. -/
  events : List StreamEvent := []

namespace Machine

/-! ## Processes and streams -/

def process? (machine : Machine) (pid : Nat) : Option Process :=
  machine.processes.find? (·.pid = pid)

def change (machine : Machine) (pid : Nat) (f : Process → Process) : Machine :=
  { machine with
    processes := machine.processes.map fun process => if process.pid = pid then f process else process }

/-- Whether a process can still write to a sink. -/
def isHeld (machine : Machine) (sink : Sink) : Bool :=
  machine.processes.any fun process => process.holds sink

def stream (machine : Machine) : OutputStream → ReadStream
  | .standard => machine.standard
  | .error => machine.error

def putStream (machine : Machine) (which : OutputStream) (stream : ReadStream) : Machine :=
  match which with
  | .standard => { machine with standard := stream }
  | .error => { machine with error := stream }

def report (machine : Machine) (events : List StreamEvent) : Machine :=
  { machine with events := events.reverse ++ machine.events }

/-- Ends a stream that no process holds any more. -/
def endStream (machine : Machine) (which : OutputStream) : Machine :=
  let stream := machine.stream which
  if stream.isOver || machine.isHeld (.stream which) then machine
  else
    let (reader, events) := stream.reader.close
    (machine.putStream which { stream with reader, isOver := true }).report events

/-- Ends the streams that no process holds any more. -/
def endStreams (machine : Machine) : Machine :=
  (machine.endStream .standard).endStream .error

def endProcess (machine : Machine) (pid : Nat) (ending : ProcessEnd) : Machine :=
  (machine.change pid fun process =>
    { process with ending := process.ending <|> some ending }).endStreams

/-! ## Signals -/

/-- The signals that do nothing to a process that has not asked for them. -/
def isHarmless (number : Nat) : Bool := [0, 17, 18, 23, 28].contains number

/-- Lets a signal reach a process. -/
def signalProcess (machine : Machine) (number : Nat) (process : Process) : Machine :=
  if number = 9 then machine.endProcess process.pid (.signalled 9)
  else
    match process.disposition number with
    | some [] => machine
    | some _ =>
      machine.change process.pid fun process =>
        process.changeShell fun state => { state with pending := state.pending ++ [number] }
    | none =>
      if isHarmless number then machine
      else machine.endProcess process.pid (.signalled number)

/-- Sends a signal to a process, or to all of them by the number zero. -/
def signal (machine : Machine) (target : Int) (number : Nat) : Except OsError Unit × Machine :=
  let receivers := machine.processes.filter fun process =>
    process.isLive && (target = 0 || target = process.pid)
  if receivers.isEmpty then (.error .noSuchProcess, machine)
  else (.ok (), receivers.foldl (fun machine process => machine.signalProcess number process) machine)

def signalNumber : Signal → Nat
  | .kill => 9
  | .terminate => 15

/-! ## Writing -/

/-- Ends a process that writes although nobody reads. -/
def breakPipe (machine : Machine) (pid : Nat) : Machine :=
  match machine.process? pid with
  | some process => machine.signalProcess 13 process
  | none => machine

/-- The time from a write until its reader has looked at it. -/
def readTime : Nat := 100

/-- Lets a stream be read. What is written before a reader that stops has come to it is lost, and
later writers are ended. -/
def readStream (machine : Machine) (pid : Nat) (which : OutputStream) (bytes : List UInt8) :
    Machine :=
  let stream := machine.stream which
  if stream.reader.isStopped then
    if stream.brokenAt.all (· ≤ machine.clock) then machine.breakPipe pid else machine
  else
    let (reader, events) := stream.reader.read bytes
    let brokenAt := if reader.isStopped then some (machine.clock + readTime) else none
    (machine.putStream which { stream with reader, brokenAt }).report events

/-- Writes bytes to where a descriptor leads. -/
def write (machine : Machine) (pid : Nat) (sink : Option Sink) (bytes : List UInt8) : Machine :=
  if bytes.isEmpty then machine
  else
    match sink with
    | none | some .nowhere => machine
    | some (.stream which) => machine.readStream pid which bytes
    | some (.buffer index) =>
      if TextBuffer.capacity ≤ (machine.buffers.getD index {}).size then machine.breakPipe pid
      else { machine with buffers := machine.buffers.modify index (·.add bytes) }
    | some (.file names) =>
      match machine.files.entryAt names with
      | some (.file content isExecutable) =>
        { machine with
          files := machine.files.replace names (.file (content ++ bytes) isExecutable) }
      | _ => machine

/-! ## Starting processes -/

def add (machine : Machine) (parent : Nat) (activity : Activity) (delay : Nat)
    (sinks : Sinks) (ignored : List Nat) : Machine :=
  let process : Process :=
    { pid := machine.nextPid, parent, activity, readyAt := machine.clock + delay, sinks, ignored }
  { machine with processes := machine.processes ++ [process], nextPid := machine.nextPid + 1 }

/-- How long it takes to split off a process, and to load a program. -/
def forkTime : Nat := 300

/-- How long it takes to load a program. -/
def loadTime : Nat := 700

/-- How long one step of a shell takes. -/
def stepTime : Nat := 3

/-- What running a program comes to for a process with these descriptors and so on, and a complaint of
it. The process keeps its number. -/
def begin (machine : Machine) (pid : Nat) (launch : Launch) (base : Shell.State) :
    Activity × Option String × Option FileTree :=
  let words := launch.arguments
  if Launch.isShell launch.program then
    let handlers := base.ignored.map fun number => (number, [])
    let fresh : Shell.State :=
      { scope := { bindings := base.scope.bindings, pid }
        exported := base.scope.bindings.map (·.1)
        directory := base.directory, sinks := base.sinks, input := base.input, handlers }
    let (state, complaint) := fresh.launch machine.files words
    (.shell state, complaint, none)
  else
    let call : UtilityCall :=
      { label := String.ofList (words.headD [])
        arguments := words.drop 1
        bindings := base.scope.bindings
        directory := base.directory, input := base.input, files := machine.files }
    let run := Utility.run launch.program call
    let activity : Activity := if run.repeats then .endless run.out
      else .utility [(2, run.err), (1, run.out)] run.duration run.status
    (activity, none, run.files)

/-- What running a program by its name comes to, through the programs that only run another one. -/
def find (machine : Machine) (base : Shell.State) :
    Nat → List (List Char) → Except OsError (Launch × Shell.State)
  | 0, _ => .error .notFound
  | depth + 1, words => do
    let name := String.ofList (words.headD [])
    let launch ← Launch.ofName machine.files base.directory name words
    match launch.wrapped? with
    | some (bindings, inner) => find machine (base.assignAll bindings) depth inner
    | none => return (launch, base)

/-- Turns a process into another program. A file that is no program is run as a script. -/
def become (machine : Machine) (process : Process) (state : Shell.State) (label : String)
    (words : List (List Char)) (bindings : List (String × List Char)) : Machine :=
  let base := { state with scope := { state.scope with bindings } }
  let name := String.ofList (words.headD [])
  let fails (text : String) (status : Nat) : Machine :=
    let failed := { state with tasks := [.leave status], handlers := [] }
    (machine.change process.pid fun process => { process with activity := .shell failed }).write
      process.pid (state.sinks.lookup 2) (state.complaint s!"{label}{name}: {text}")
  let starts (launch : Launch) (base : Shell.State) : Machine :=
    let (activity, complaint, files) := machine.begin process.pid launch base
    let started := machine.change process.pid fun process =>
      { process with
        activity, readyAt := machine.clock + loadTime, sinks := base.sinks, ignored := base.ignored }
    let started := { started with files := files.getD started.files }
    (complaint.elim started fun text =>
      started.write process.pid (state.sinks.lookup 2)
        (Shell.Printing.bytes s!"{name}: 0: {text}\n")).endStreams
  match machine.find base 5 words with
  | .ok (launch, base) => starts launch base
  | .error .wrongExecutableFormat =>
    starts { program := "sh", arguments := "sh".toList :: words } base
  | .error .permissionDenied => fails "Permission denied" 126
  | .error .notADirectory => fails "Not a directory" 127
  | .error _ => fails "not found" 127

/-! ## Steps -/

/-- The words of a shell for a command that a signal has ended. -/
def deathNotice (number : Nat) : Option String :=
  [(1, "Hangup"), (3, "Quit"), (6, "Aborted"), (9, "Killed"), (10, "User defined signal 1"),
    (11, "Segmentation fault"), (12, "User defined signal 2"), (14, "Alarm clock"),
    (15, "Terminated")].lookup number

/-- Does what a shell asks for at the end of a step. -/
def grant (machine : Machine) (process : Process) (state : Shell.State) (request : Shell.Request) :
    Machine :=
  let pid := process.pid
  let put (machine : Machine) (activity : Activity) (delay : Nat) : Machine :=
    machine.change pid fun process => { process with activity, readyAt := machine.clock + delay }
  let split (machine : Machine) (child : Shell.State) : Machine :=
    machine.add pid (.shell child) forkTime [] []
  match request with
  | .nothing => (put machine (.shell state) stepTime).endStreams
  | .print descriptor bytes writer =>
    match state.sinks.lookup descriptor, writer with
    | none, some name =>
      if bytes.isEmpty then put machine (.shell state) stepTime
      else
        (put machine (.shell (state.ended 1)) stepTime).write pid (state.sinks.lookup 2)
          (state.complaint s!"{name}: {name}: I/O error")
    | sink, _ => (put machine (.shell state) stepTime).write pid sink bytes
  | .await child =>
    split (put machine (.awaiting state machine.nextPid none) forkTime) child
  | .capture child =>
    let index := machine.buffers.length
    let machine := { machine with buffers := machine.buffers ++ [{}] }
    let child := { child with sinks := child.sinks.lead 1 (some (.buffer index)) }
    split (put machine (.awaiting state machine.nextPid (some index)) forkTime) child
  | .background child =>
    split (put machine (.shell (state.started machine.nextPid)) forkTime) child
  | .become label words bindings => machine.become process state label words bindings
  | .signal targets number =>
    let machine := put machine (.shell (state.ended 0)) stepTime
    targets.foldl (fun machine target =>
      match machine.signal target number with
      | (.ok (), machine) => machine
      | (.error _, machine) =>
        let machine := machine.change pid fun process => process.changeShell fun state => state.ended 1
        machine.write pid (state.sinks.lookup 2) (state.complaint "kill: No such process\n")) machine
  | .awaitJobs jobs => put machine (.awaitingJobs state jobs) stepTime
  | .finish code => machine.endProcess pid (.exited code)

/-- How a process has ended that a shell asks for; one that is not known counts as failed. -/
def statusOf (machine : Machine) (pid : Nat) : Nat :=
  ((machine.process? pid).bind (·.ending)).elim 127 ProcessEnd.status

/-- Takes a process away whose end has been asked for, and lets a shell say so if a signal ended it. -/
def bury (machine : Machine) (process : Process) (state : Shell.State) (child : Nat) : Machine :=
  let rest := { machine with processes := machine.processes.filter (·.pid ≠ child) }
  match (machine.process? child).bind (·.ending) with
  | some (.signalled number) =>
    rest.write process.pid (state.sinks.lookup 2)
      (((deathNotice number).map fun text => Shell.Printing.bytes (text ++ "\n")).getD [])
  | _ => rest

/-- Goes on with a shell whose child has ended. -/
def resume (machine : Machine) (process : Process) (state : Shell.State) (child : Nat)
    (buffer : Option Nat) : Machine :=
  let status := machine.statusOf child
  let next := match buffer with
    | none => state.awaited status
    | some index => state.captured (machine.buffers.getD index {}).bytes status
  let machine := machine.change process.pid fun process =>
    { process with activity := .shell next, readyAt := machine.clock + stepTime }
  machine.bury process state child

/-- Goes on with a shell that has waited for processes in the background. -/
def resumeJobs (machine : Machine) (process : Process) (state : Shell.State)
    (jobs : Option (List Nat)) : Machine :=
  let put (status : Nat) : Machine :=
    machine.change process.pid fun process =>
      { process with activity := .shell (state.ended status), readyAt := machine.clock + stepTime }
  match state.pending, jobs.bind List.getLast? with
  | number :: _, _ => put (128 + number)
  | [], none => put 0
  | [], some job => (put (machine.statusOf job)).bury process state job

/-- Lets a process take its next step. -/
def stepProcess (machine : Machine) (process : Process) : Machine :=
  let put (activity : Activity) (delay : Nat) : Machine :=
    machine.change process.pid fun process =>
      { process with activity, readyAt := machine.clock + delay }
  match process.activity with
  | .shell state =>
    let turn := Shell.step machine.files state
    { machine with files := turn.files.getD machine.files }.grant process turn.shell turn.request
  | .awaiting state child buffer => machine.resume process state child buffer
  | .awaitingJobs state jobs => machine.resumeJobs process state jobs
  | .endless bytes =>
    (put process.activity readTime).write process.pid (process.sinks.lookup 1) bytes
  | .utility ((descriptor, bytes) :: prints) duration status =>
    (put (.utility prints duration status) stepTime).write process.pid
      (process.sinks.lookup descriptor) bytes
  | .utility [] (some 0) status => machine.endProcess process.pid (.exited status)
  | .utility [] (some duration) status => put (.utility [] (some 0) status) duration
  | .utility [] none _ => machine

def hasEnded (machine : Machine) (pid : Nat) : Bool :=
  match machine.process? pid with
  | some process => !process.isLive
  | none => true

/-- Whether a process can take a step once its time has come. -/
def canStep (machine : Machine) (process : Process) : Bool :=
  process.isLive &&
    match process.activity with
    | .shell _ => true
    | .awaiting _ child buffer =>
      machine.hasEnded child && buffer.all fun index => !machine.isHeld (.buffer index)
    | .awaitingJobs state jobs =>
      let own := (machine.processes.filter fun other => other.parent = process.pid).map (·.pid)
      !state.pending.isEmpty || (jobs.getD own).all machine.hasEnded
    | .utility [] none _ => false
    | .utility _ _ _ | .endless _ => true

/-- The process whose step is due first. -/
def nextProcess? (machine : Machine) : Option Process :=
  (machine.processes.filter machine.canStep).foldl (fun best process =>
    match best with
    | some first => if process.readyAt < first.readyAt then some process else some first
    | none => some process) none

/-- The machine after its next step, if one is due up to a time. -/
def step? (machine : Machine) (deadline : Nat) : Option Machine :=
  match machine.nextProcess? with
  | some process =>
    if process.readyAt ≤ deadline then
      some (({ machine with clock := max machine.clock process.readyAt } : Machine).stepProcess process)
    else none
  | none => none

/-- How many steps a machine takes at most while it is waited for. -/
def stepLimit : Nat := 20000000

/-- Runs until something is the case or a time has come, at which the clock then stands. -/
def runUntil (found : Machine → Bool) (deadline : Nat) : Nat → Machine → Machine
  | 0, machine => { machine with clock := max machine.clock deadline }
  | limit + 1, machine =>
    if found machine then machine
    else
      match machine.step? deadline with
      | some next => runUntil found deadline limit next
      | none => { machine with clock := max machine.clock deadline }

end Machine

end ThrowawayServer
