import ThrowawayServer.Shutdown.Escalation

/-!
# Sending shutdown commands over a network

One connection is opened for each command. A server that refuses the connection or breaks it off is
taken for one that is going down already; a command that never got as far as that is an error.
-/

set_option autoImplicit false

namespace ThrowawayServer

/-- What becomes of an attempt to connect. -/
inductive ConnectOutcome where
  | opened
  | refused
  | failed (error : OsError)
  | timedOut
  deriving DecidableEq, Repr

/-- What becomes of bytes that are written to a connection. -/
inductive WriteOutcome where
  | written
  /-- The other side has broken the connection off. -/
  | brokenOff
  | failed (error : OsError)
  deriving DecidableEq, Repr

/-- What can be done over a network, with one connection at a time. Times are in milliseconds. -/
structure Network (σ : Type) where
  /-- Opens a connection within a time. -/
  connect : SocketAddress → Nat → σ → ConnectOutcome × σ
  write : Message.Bytes → σ → WriteOutcome × σ
  /-- Whether this many bytes arrive within a time. -/
  receives : Nat → Nat → σ → Bool × σ

/-- A network on which no address can be reached. -/
def Network.unreachable {σ : Type} : Network σ where
  connect := fun _ _ state => (.failed .networkUnreachable, state)
  write := fun _ state => (.failed .networkUnreachable, state)
  receives := fun _ _ state => (false, state)

/-- How long sending a command may take. Times are in milliseconds. -/
structure CommandChannel where
  connectTimeout : Nat := 1000
  /-- How long the header of an answer is waited for. -/
  readTimeout : Nat := 2000
  deriving DecidableEq, Repr

namespace CommandChannel

variable {σ : Type}

/-- The wording for a connection that took too long. -/
def timeoutMessage (address : SocketAddress) : String :=
  s!"connect to {address.toText} timed out"

/-- Waits for the header of an answer. -/
def awaitHeader (channel : CommandChannel) (network : Network σ) (state : σ) : CommandAck × σ :=
  let (arrived, state) := network.receives Message.headerLength channel.readTimeout state
  (if arrived then .replied else .closed, state)

/-- Sends a command and tells how the server reacts. -/
def send (channel : CommandChannel) (network : Network σ) (address : SocketAddress)
    (payload : Message.Bytes) (state : σ) : Except OsError CommandAck × σ :=
  match network.connect address channel.connectTimeout state with
  | (.refused, state) => (.ok .refused, state)
  | (.failed error, state) => (.error error, state)
  | (.timedOut, state) => (.error (.other (timeoutMessage address)), state)
  | (.opened, state) =>
    match network.write payload state with
    | (.brokenOff, state) => (.ok .closed, state)
    | (.failed error, state) => (.error error, state)
    | (.written, state) =>
      let (ack, state) := channel.awaitHeader network state
      (.ok ack, state)

end CommandChannel

end ThrowawayServer
