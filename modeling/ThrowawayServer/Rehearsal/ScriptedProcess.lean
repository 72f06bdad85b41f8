import ThrowawayServer.Shutdown.Escalation

/-!
# Scripted processes

A process for rehearsing an escalation on a clock that only sleeping moves. The script says when the
process dies and how it reacts to each command and each signal.
-/

set_option autoImplicit false

namespace ThrowawayServer

/-- How a scripted process reacts to a command or a signal. -/
structure Reaction where
  dies : Bool := false
  /-- The sender is told of a failure. -/
  fails : Bool := false
  /-- What the sender of a command is told otherwise. -/
  ack : CommandAck := .closed
  deriving DecidableEq, Repr

/-- What becomes of a process. Times are in milliseconds. -/
structure ProcessScript where
  /-- When the process dies whatever is done to it. -/
  diesAt : Option Nat := none
  /-- How many checks it passes at most. -/
  alivePolls : Option Nat := none
  /-- The time from the first reaction by which it dies to its death. -/
  deathDelay : Nat := 0
  /-- How long a command takes. -/
  latency : Nat := 0
  deriving DecidableEq, Repr

/-- A scripted process in the middle of a run. -/
structure ScriptedProcess where
  script : ProcessScript
  clock : Nat := 0
  /-- How many checks have been made. -/
  polls : Nat := 0
  /-- When the process dies, as far as that is settled. -/
  death : Option Nat := none
  /-- The reactions to the next commands. -/
  channel : List Reaction := []
  signals : List Reaction := []
  deriving DecidableEq, Repr

namespace ScriptedProcess

def start (script : ProcessScript) (channel signals : List Reaction) : ScriptedProcess :=
  { script, death := script.diesAt, channel, signals }

def sleep (time : Nat) (process : ScriptedProcess) : ScriptedProcess :=
  { process with clock := process.clock + time }

/-- Whether the process is alive; the check is counted. -/
def check (process : ScriptedProcess) : Bool × ScriptedProcess :=
  let hasPolls := process.script.alivePolls.all fun limit => process.polls < limit
  let isBeforeDeath := process.death.all fun death => process.clock < death
  (hasPolls && isBeforeDeath, { process with polls := process.polls + 1 })

/-- The process after a reaction. Its death is settled once. -/
def react (reaction : Reaction) (process : ScriptedProcess) : ScriptedProcess :=
  if reaction.dies then
    { process with
      death := process.death <|> some (process.clock + process.script.deathDelay) }
  else process

/-- Sends a command: it takes its time, and then the process reacts. -/
def send (process : ScriptedProcess) : Except OsError CommandAck × ScriptedProcess :=
  let reaction := process.channel.headD {}
  let next := ({ process with channel := process.channel.drop 1 }).sleep process.script.latency
  (if reaction.fails then .error .notFound else .ok reaction.ack, next.react reaction)

def signal (process : ScriptedProcess) : Except OsError Unit × ScriptedProcess :=
  let reaction := process.signals.headD {}
  let next := { process with signals := process.signals.drop 1 }
  (if reaction.fails then .error .noSuchProcess else .ok (), next.react reaction)

def world : ProcessWorld ScriptedProcess where
  now := clock
  sleep := sleep
  isAlive := check
  send := fun _ _ process => process.send
  signal := fun _ _ process => process.signal
  spareChecks := fun process => process.script.alivePolls.getD 0

end ScriptedProcess

end ThrowawayServer
