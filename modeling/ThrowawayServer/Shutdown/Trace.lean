import ThrowawayServer.Shutdown.Escalation

/-!
# Traces of an escalation

A world that writes down what it is asked and what it is told to do. `traced` keeps the events of a run
beside the state of the world, so that statements about runs are statements about lists of events.
-/

set_option autoImplicit false

namespace ThrowawayServer

/-- Something that an escalation saw or did, with the time at which it did it. -/
inductive EscalationEvent where
  | sawAlive (answer : Bool)
  | sent (payload : Message.Bytes) (address : SocketAddress) (time : Nat)
  | signalled (signal : Signal) (pid : UInt32) (time : Nat)
  deriving DecidableEq, Repr

/-- Whether an event acts on the process. -/
def EscalationEvent.isEffect : EscalationEvent → Bool
  | .sawAlive _ => false
  | .sent _ _ _ | .signalled _ _ _ => true

/-- The world with its events written down in order beside its state. -/
def ProcessWorld.traced {σ : Type} (world : ProcessWorld σ) :
    ProcessWorld (σ × List EscalationEvent) where
  now := fun (state, _) => world.now state
  sleep := fun time (state, events) => (world.sleep time state, events)
  isAlive := fun (state, events) =>
    let (alive, next) := world.isAlive state
    (alive, next, events ++ [.sawAlive alive])
  send := fun address payload (state, events) =>
    let (result, next) := world.send address payload state
    (result, next, events ++ [.sent payload address (world.now state)])
  signal := fun pid signal (state, events) =>
    let (result, next) := world.signal pid signal state
    (result, next, events ++ [.signalled signal pid (world.now state)])
  spareChecks := fun (state, _) => world.spareChecks state

/-- A run of checks with the same answer, or a single effect. -/
inductive TraceEntry where
  | checks (answer : Bool) (count : Nat)
  | effect (event : EscalationEvent)
  deriving DecidableEq, Repr

/-- Events with neighbouring checks of the same answer counted together. -/
def groupChecks : List EscalationEvent → List TraceEntry
  | [] => []
  | .sawAlive answer :: rest =>
    match groupChecks rest with
    | .checks next count :: entries =>
      if next = answer then .checks answer (count + 1) :: entries
      else .checks answer 1 :: .checks next count :: entries
    | entries => .checks answer 1 :: entries
  | event :: rest => .effect event :: groupChecks rest

end ThrowawayServer
