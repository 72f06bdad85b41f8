import ThrowawayServer.Rehearsal.FileTree
import ThrowawayServer.Rehearsal.Shell.Expand
import ThrowawayServer.Rehearsal.Shell.Printing

/-!
# A shell in the middle of a script

What a shell has still to do is a stack of tasks. Loops, choices and redirections put a task below
what they run, so that the rest of the construct goes on from there.
-/

set_option autoImplicit false

namespace ThrowawayServer

/-- The two output streams of a process that is supervised. -/
inductive OutputStream where
  | standard
  | error
  deriving DecidableEq, Repr

/-- Where a descriptor leads. -/
inductive Sink where
  | stream (stream : OutputStream)
  /-- A text that is put together for another command. -/
  | buffer (index : Nat)
  | nowhere
  | file (names : FileNames)
  deriving DecidableEq, Repr

/-- Descriptors that are open for writing. -/
abbrev Sinks := List (Nat × Sink)

namespace Sinks

/-- The descriptors with one made to lead somewhere, or closed. -/
def lead (sinks : Sinks) (descriptor : Nat) (sink : Option Sink) : Sinks :=
  (sink.map fun sink => (descriptor, sink)).toList ++ sinks.filter (·.1 ≠ descriptor)

end Sinks

namespace Shell

inductive Task where
  /-- Read and run the next part of a script. -/
  | source (script : Script)
  | run (command : Command)
  /-- Run a command if the one before it ended with success, or if it failed. -/
  | onStatus (wanted : Bool) (command : Command)
  | branch (yes no : Command)
  | invert
  /-- Begin the next round of a loop with its condition. -/
  | loop (isUntil : Bool) (condition body : Command)
  /-- Go on after the condition of a loop; `status` is how the body ended the last time. -/
  | loopCheck (isUntil : Bool) (condition body : Command) (status : Nat)
  | each (name : String) (values : List (List Char)) (body : Command)
  /-- Run a command once the first output in it is there. -/
  | fill (command : Command)
  /-- Run a command on what the one before it has printed. -/
  | feed (command : Command)
  | feedText (text : List UInt8) (command : Command)
  /-- Put descriptors back, and the input if there is one. -/
  | restore (sinks : Sinks) (input : Option (List UInt8))
  | endCall (arguments : List (List Char))
  | endTrap (status : Nat)
  /-- Turn into another program; `label` stands before complaints about it. -/
  | become (label : String) (arguments : List (List Char)) (bindings : List (String × List Char))
  /-- End if the command before failed. -/
  | check
  | leave (code : Nat)

/-- Whether how a command ends is looked at by the task below it. -/
def Task.isTest : Task → Bool
  | .onStatus _ _ | .branch _ _ | .invert | .loopCheck _ _ _ _ => true
  | _ => false

/-- A shell between two steps. -/
structure State where
  scope : Scope := {}
  tasks : List Task := []
  /-- The variables that programs are given. -/
  exported : List String := []
  functions : List (String × Command) := []
  directory : FileNames := []
  sinks : Sinks := []
  input : List UInt8 := []
  /-- What is done on a signal, by number, and at the end, by zero. An empty text means that the signal
  is ignored. -/
  handlers : List (Nat × List Char) := []
  /-- Signals that have arrived and are to be handled. -/
  pending : List Nat := []
  /-- The line of the command that is run. -/
  line : Nat := 1
  /-- How the command ended whose output was filled in last. -/
  outputStatus : Option Nat := none
  exitsOnFailure : Bool := false

namespace State

def ended (shell : State) (status : Nat) : State :=
  { shell with scope := { shell.scope with status } }

/-- The shell with more tasks before its others. -/
def push (shell : State) (tasks : List Task) : State :=
  { shell with tasks := tasks ++ shell.tasks }

/-- The signals that the shell and the programs it starts ignore. -/
def ignored (shell : State) : List Nat :=
  (shell.handlers.filter fun (number, action) => number ≠ 0 && action.isEmpty).map (·.1)

/-- A shell of its own that starts out like this one. -/
def child (shell : State) (tasks : List Task) : State :=
  { shell with
    tasks
    pending := []
    handlers := shell.handlers.filter fun (number, action) => number ≠ 0 && action.isEmpty }

/-- Where all descriptors lead, also those that are put back later. -/
def allSinks (shell : State) : List Sink :=
  (shell.sinks ++ shell.tasks.flatMap fun
    | .restore sinks _ => sinks
    | _ => []).map (·.2)

/-- The variables that a program is given. -/
def environment (shell : State) (more : List (String × List Char)) : List (String × List Char) :=
  let own := shell.scope.bindings.filter fun (name, _) =>
    shell.exported.contains name && (more.lookup name).isNone
  own ++ more

/-- Whether something is to be done on a signal or at the end. -/
def hasTraps (shell : State) : Bool :=
  shell.handlers.any fun (_, action) => !action.isEmpty

/-- Whether the shell may turn into the next program, because nothing is to be done after it. -/
def isAtEnd (shell : State) : Bool := shell.tasks.isEmpty && !shell.hasTraps

/-- The bytes of a message with the name of the script and the line before it. -/
def complaint (shell : State) (text : String) : List UInt8 :=
  Printing.bytes s!"{String.ofList shell.scope.name}: {shell.line}: {text}\n"

end State

/-- What a shell asks of the system at the end of a step. -/
inductive Request where
  | nothing
  /-- Write bytes to a descriptor, for a command of the shell or as a complaint. -/
  | print (descriptor : Nat) (bytes : List UInt8) (writer : Option String)
  /-- Run a shell beside this one and wait for it. -/
  | await (child : State)
  /-- Run a shell beside this one and take what it prints. -/
  | capture (child : State)
  | background (child : State)
  | become (label : String) (arguments : List (List Char)) (bindings : List (String × List Char))
  | signal (targets : List Int) (number : Nat)
  /-- Wait for commands in the background, or for all of them. -/
  | awaitJobs (jobs : Option (List Nat))
  | finish (code : Nat)

/-- What comes out of a step. -/
structure Turn where
  shell : State
  request : Request := .nothing
  /-- The files if the step has changed them. -/
  files : Option FileTree := none

end Shell

end ThrowawayServer
