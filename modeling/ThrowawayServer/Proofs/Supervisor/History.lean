import ThrowawayServer.Proofs.Shutdown.Climb
import ThrowawayServer.Supervisor.Lifecycle

/-!
# Histories of a supervisor

A history is what a sequence of calls on one supervisor leaves behind: for each call its answer,
the supervisor and the host around it, and what was done with the process in between. Writing this
down does not change what a call does.
-/

set_option autoImplicit false

namespace ThrowawayServer

/-- Something that a supervisor did with its process. -/
inductive HostEvent where
  | spawned (started : Bool)
  | checked (alive : Bool)
  /-- A shutdown command or a signal of an escalation. -/
  | acted (effect : ProcessEffect)
  | terminated
  | killed (done : Bool)
  | reaped (done : Bool)
  deriving DecidableEq, Repr

namespace HostEvent

/-- What a history keeps of an exchange of an escalation. -/
def ofExchange {σ : Type} : Exchange σ → HostEvent
  | .checked alive => .checked alive
  | .acted effect _ _ _ => .acted effect

def isSpawn : HostEvent → Bool
  | .spawned _ => true
  | _ => false

def isCheck : HostEvent → Bool
  | .checked _ => true
  | _ => false

def effect? : HostEvent → Option ProcessEffect
  | .acted effect => some effect
  | _ => none

def effects (events : List HostEvent) : List ProcessEffect := events.filterMap effect?

@[simp] theorem effects_append (left right : List HostEvent) :
    effects (left ++ right) = effects left ++ effects right :=
  List.filterMap_append

@[simp] theorem effects_ofExchange {σ : Type} (log : List (Exchange σ)) :
    effects (log.map ofExchange) = Exchange.effects log := by
  induction log with
  | nil => rfl
  | cons exchange log ih =>
      cases exchange with
      | checked alive => exact ih
      | acted effect delivered before after => exact congrArg (effect :: ·) ih

end HostEvent

def Hearing.map {σ τ : Type} (f : σ → τ) : Hearing σ → Hearing τ
  | .silent last => .silent (f last)
  | .heard event next later => .heard event (f next) fun _ => (later ()).map f

namespace ProcessHost

variable {σ : Type}

/-- The host with the events of the process written down in order beside its state. -/
def logged (host : ProcessHost σ) : ProcessHost (σ × List HostEvent) where
  toProcessWorld := host.toProcessWorld.noted HostEvent.ofExchange
  spawn := fun settings (state, log) =>
    let (result, next) := host.spawn settings state
    (result, next, log ++ [.spawned result.isOk])
  pastEvents := fun (state, log) =>
    let (events, next) := host.pastEvents state
    (events, next, log)
  hearing := fun deadline (state, log) => (host.hearing deadline state).map (·, log)
  terminate := fun (state, log) =>
    let (result, next) := host.terminate state
    (result, next, log ++ [.terminated])
  awaitExit := fun time (state, log) =>
    let (exited, next) := host.awaitExit time state
    (exited, next, log)
  kill := fun (state, log) =>
    let (result, next) := host.kill state
    (result, next, log ++ [.killed result.isOk])
  reap := fun (state, log) =>
    let (result, next) := host.reap state
    (result, next, log ++ [.reaped result.isOk])
  drain := fun time (state, log) => (host.drain time state, log)

section Logged

variable (host : ProcessHost σ) (state : σ) (log : List HostEvent)

@[simp] theorem logged_isAlive :
    host.logged.isAlive (state, log) =
      ((host.isAlive state).1, (host.isAlive state).2,
        log ++ [.checked (host.isAlive state).1]) := rfl

@[simp] theorem logged_now : host.logged.now (state, log) = host.now state := rfl

@[simp] theorem logged_spawn (settings : SupervisorSettings) :
    host.logged.spawn settings (state, log) =
      ((host.spawn settings state).1, (host.spawn settings state).2,
        log ++ [.spawned (host.spawn settings state).1.isOk]) := rfl

@[simp] theorem logged_pastEvents :
    host.logged.pastEvents (state, log) =
      ((host.pastEvents state).1, (host.pastEvents state).2, log) := rfl

@[simp] theorem logged_terminate :
    host.logged.terminate (state, log) =
      ((host.terminate state).1, (host.terminate state).2, log ++ [.terminated]) := rfl

@[simp] theorem logged_awaitExit (time : Nat) :
    host.logged.awaitExit time (state, log) =
      ((host.awaitExit time state).1, (host.awaitExit time state).2, log) := rfl

@[simp] theorem logged_kill :
    host.logged.kill (state, log) =
      ((host.kill state).1, (host.kill state).2, log ++ [.killed (host.kill state).1.isOk]) := rfl

@[simp] theorem logged_reap :
    host.logged.reap (state, log) =
      ((host.reap state).1, (host.reap state).2, log ++ [.reaped (host.reap state).1.isOk]) := rfl

@[simp] theorem logged_drain (time : Nat) :
    host.logged.drain time (state, log) = (host.drain time state, log) := rfl

end Logged

end ProcessHost

/-- What can be called on a supervisor. Marking is done by whoever holds the flag of the process or
a clone of it. -/
inductive SupervisorCall where
  | start
  | stop
  | checkAlive
  | mark
  deriving DecidableEq, Repr

/-- What a call comes back with. -/
inductive CallAnswer where
  | started (result : Except SuperviseError RunningProcess)
  | stopped (result : Except SuperviseError (Option Int))
  | alive (answer : Bool)
  /-- Whether the flag was marked for the first time, if there is one. -/
  | marked (first : Option Bool)

/-- One call in a history. -/
structure CallRecord (σ : Type) where
  call : SupervisorCall
  before : Supervisor
  stateBefore : σ
  answer : CallAnswer
  after : Supervisor
  stateAfter : σ
  events : List HostEvent

namespace CallRecord

variable {σ : Type}

def effects (record : CallRecord σ) : List ProcessEffect := HostEvent.effects record.events

def payloads (record : CallRecord σ) : List Message.Bytes :=
  record.effects.filterMap ProcessEffect.payload?

/-- Whether the call ran an escalation. Nothing else in a stop asks whether the process is alive,
and every escalation does. -/
def escalates (record : CallRecord σ) : Bool :=
  record.call = .stop && record.events.any HostEvent.isCheck

/-- The call changed nothing and did nothing. -/
structure Idle (record : CallRecord σ) : Prop where
  same : record.after = record.before
  same_state : record.stateAfter = record.stateBefore
  no_events : record.events = []

end CallRecord

namespace Supervisor

variable {σ : Type}

def perform (host : ProcessHost σ) (supervisor : Supervisor) (call : SupervisorCall) (state : σ) :
    CallAnswer × Supervisor × σ :=
  match call with
  | .start =>
    let (result, supervisor, state) := supervisor.start host state
    (.started result, supervisor, state)
  | .stop =>
    let (result, supervisor, state) := supervisor.stop host state
    (.stopped result, supervisor, state)
  | .checkAlive =>
    let (answer, state) := supervisor.checkAlive host state
    (.alive answer, supervisor, state)
  | .mark =>
    let (first, supervisor) := supervisor.mark
    (.marked first, supervisor, state)

/-- A call with what it did, which is read off the same call on the logged host. -/
def record (host : ProcessHost σ) (supervisor : Supervisor) (call : SupervisorCall) (state : σ) :
    CallRecord σ :=
  let (answer, after, stateAfter) := supervisor.perform host call state
  let events := (supervisor.perform host.logged call (state, [])).2.2.2
  { call, before := supervisor, stateBefore := state, answer, after, stateAfter, events }

/-- The history of calls on a supervisor, one after another. -/
def history (host : ProcessHost σ) (supervisor : Supervisor) :
    List SupervisorCall → σ → List (CallRecord σ)
  | [], _ => []
  | call :: calls, state =>
    let record := supervisor.record host call state
    record :: history host record.after calls record.stateAfter

end Supervisor

end ThrowawayServer
