import ThrowawayServer.Process.OsError

/-!
# Signals

The two signals that processes are stopped with. The kernel takes a signed number as the receiver: a
positive one is a process, zero is the sender's own process group. Numbers that do not fit are refused
before the kernel is asked.
-/

set_option autoImplicit false

namespace ThrowawayServer

/-- A signal that stops processes. -/
inductive Signal where
  /-- Cannot be caught. -/
  | kill
  | terminate
  deriving DecidableEq, Repr

def Signal.name : Signal → String
  | .kill => "kill"
  | .terminate => "terminate"

/-- The number that the kernel is given for a process number. -/
def signalTarget (pid : UInt32) : Except OsError Int :=
  if pid.toNat < 0x80000000 then .ok pid.toNat else .error .pidOutOfRange

/-- Sends a signal to a process; `deliver` is what the kernel does with a number. -/
def sendSignal {σ : Type} (deliver : Int → Signal → σ → Except OsError Unit × σ) (pid : UInt32)
    (signal : Signal) (state : σ) : Except OsError Unit × σ :=
  match signalTarget pid with
  | .error error => (.error error, state)
  | .ok target => deliver target signal state

end ThrowawayServer
