import ThrowawayServer.Rehearsal.Shell.Builtin
import ThrowawayServer.Rehearsal.Shell.Parse

/-!
# One step of a shell

`step` does the next task of a shell and says what the shell then asks of the system. Whatever takes
time or needs another process is asked for; the answer comes back through `captured`, `awaited` and the
like, after which the shell takes its next step.
-/

set_option autoImplicit false

namespace ThrowawayServer.Shell

/-- The commands of the shell whose redirection faults end the script. -/
def isSpecial (name : String) : Bool :=
  [":", ".", "break", "continue", "eval", "exec", "exit", "export", "readonly", "return", "set",
    "shift", "times", "trap", "unset"].contains name

namespace State

def assignAll (shell : State) (assignments : List (String × List Char)) : State :=
  let scope := assignments.foldl (fun scope (name, value) => scope.assign name value) shell.scope
  { shell with scope }

def call (shell : State) (body : Command) (arguments : List (List Char)) : State :=
  let scope := { shell.scope with arguments }
  ({ shell with scope } : State).push [.run body, .endCall shell.scope.arguments]

end State

/-- Runs a program: in place of the shell if nothing is left to do, and beside it otherwise. -/
def launch (shell : State) (arguments : List (List Char)) (bindings : List (String × List Char)) :
    Turn :=
  if shell.isAtEnd then { shell := { shell with tasks := [.become "" arguments bindings] } }
  else { shell, request := .await (shell.child [.become "" arguments bindings]) }

/-- Runs a command that a name and arguments stand for. -/
def invoke (setting : Setting) (name : String) (arguments : List (List Char))
    (bindings : List (String × List Char)) : Turn :=
  let { shell, files } := setting
  match shell.functions.lookup name with
  | some body => { shell := (shell.assignAll bindings).call body arguments }
  | none =>
    match name, arguments with
    | "exec", [] => (shell.assignAll bindings).done 0
    | "exec", _ =>
      { shell := { shell with
          tasks := [.become "exec: " arguments bindings]
          handlers := shell.handlers.filter fun (number, _) => number ≠ 0 } }
    | "command", ['-', 'v'] :: word :: _ =>
      let word := String.ofList word
      if Builtin.names.contains word then
        Builtin.print shell name { out := Printing.bytes (word ++ "\n") }
      else
        match Builtin.whereIs? files word with
        | some path => Builtin.print shell name { out := Printing.bytes (path ++ "\n") }
        | none => shell.done 127
    | "command", word :: rest =>
      match builtin? files shell (String.ofList word) rest with
      | some turn => turn
      | none => launch shell (word :: rest) bindings
    | _, _ =>
      match builtin? files (if isSpecial name then shell.assignAll bindings else shell) name
          arguments with
      | some turn => turn
      | none => launch shell (name.toList :: arguments) bindings

/-- The value of each assignment. -/
def expandAssignments (assignments : List (String × Word)) :
    Expansion (List (String × List Char)) :=
  assignments.mapM fun (name, value) => do return (name, ← expandText value)

/-- Runs a simple command whose words have been expanded. -/
def runExpanded (setting : Setting) (arguments : List (List Char))
    (bindings : List (String × List Char)) (targets : List Redirection) : Turn :=
  let before := setting.shell
  match arguments, redirectAll setting targets with
  | [], .ok _ => (before.assignAll bindings).done (before.outputStatus.getD 0)
  | name :: _, .error text =>
    if isSpecial (String.ofList name) then before.giveUp text else before.complain text 2
  | [], .error text => before.complain text 2
  | name :: rest, .ok setting =>
    let name := String.ofList name
    let keeps := targets.isEmpty || (name = "exec" && rest.isEmpty) || before.isAtEnd
    let shell := if keeps then setting.shell
      else setting.shell.push [restoreTask before targets]
    let turn := invoke { setting with shell } name rest bindings
    { turn with files := turn.files <|> some setting.files }

def runSimple (setting : Setting) (line : Nat) (assignments : List (String × Word))
    (words : List Word) (targets : List Redirection) : Turn :=
  let shell := { setting.shell with line }
  let shell := if shell.exitsOnFailure && !shell.isAtEnd then shell.push [.check] else shell
  let expansion : Expansion (List (List Char) × List (String × List Char)) := do
    return (← expandWords words, ← expandAssignments assignments)
  match ({ setting with shell } : Setting).expand expansion with
  | .error text => shell.giveUp text
  | .ok ((arguments, bindings), setting) =>
    let turn := runExpanded setting arguments bindings targets
    { turn with shell := { turn.shell with outputStatus := none } }

/-- The body of the first branch with a pattern that describes a text. -/
def chooseBranch (text : List Char) : List (List Word × Command) → Expansion (Option Command)
  | [] => return none
  | (choices, body) :: rest => do
    let patterns ← choices.mapM expandPattern
    if patterns.any fun pattern => Wildcard.describes pattern text then return some body
    else chooseBranch text rest

/-- Runs a command whose words need no output of another one any more. -/
def runCommand (setting : Setting) (command : Command) : Turn :=
  let shell := setting.shell
  match command with
  | .nothing => shell.done 0
  | .simple line assignments words targets => runSimple setting line assignments words targets
  | .pipe left right =>
    { shell := shell.push [.feed right], request := .capture (shell.child [.run left]) }
  | .negate body => { shell := shell.push [.run body, .invert] }
  | .both left right => { shell := shell.push [.run left, .onStatus true right] }
  | .either left right => { shell := shell.push [.run left, .onStatus false right] }
  | .sequence left right => { shell := shell.push [.run left, .run right] }
  | .background body =>
    { shell := shell.ended 0, request := .background { shell.child [.run body] with input := [] } }
  | .choose condition yes no => { shell := shell.push [.run condition, .branch yes no] }
  | .loop isUntil condition body => { shell := shell.push [.run condition, .loopCheck isUntil condition body 0] }
  | .each name words body =>
    let values : Expansion (List (List Char)) := match words with
      | some words => expandWords words
      | none => return (← get).arguments
    match setting.expand values with
    | .error text => shell.giveUp text
    | .ok (values, setting) => { shell := (setting.shell.ended 0).push [.each name values body] }
  | .select subject branches =>
    let chosen : Expansion (Option Command) := do chooseBranch (← expandText subject) branches
    match setting.expand chosen with
    | .error text => shell.giveUp text
    | .ok (chosen, setting) => { shell := (setting.shell.ended 0).push (chosen.toList.map .run) }
  | .subshell body => { shell, request := .await (shell.child [.run body]) }
  | .define name body =>
    ({ shell with functions := (name, body) :: shell.functions } : State).done 0
  | .redirected line body targets =>
    match redirectAll { setting with shell := { shell with line } } targets with
    | .error text => shell.complain text 2
    | .ok setting =>
      { shell := setting.shell.push [.run body, restoreTask shell targets]
        files := some setting.files }

/-- Does a task; the shell has the other tasks left. -/
def doTask (files : FileTree) (shell : State) (task : Task) : Turn :=
  let status := shell.scope.status
  match task with
  | .source script =>
    match script.next? with
    | .error fault => ({ shell with line := fault.line } : State).giveUp fault.text
    | .ok none => { shell }
    | .ok (some (command, script)) =>
      { shell := shell.push (.run command :: if script.rest.isEmpty then [] else [.source script]) }
  | .run command =>
    match command.firstOutput? with
    | some body =>
      { shell := shell.push [.fill command], request := .capture (shell.child [.run body]) }
    | none => runCommand { shell, files } command
  | .onStatus wanted command =>
    { shell := if (status == 0) == wanted then shell.push [.run command] else shell }
  | .branch yes no => { shell := shell.push [.run (if status = 0 then yes else no)] }
  | .invert => shell.done (if status = 0 then 1 else 0)
  | .loop isUntil condition body =>
    { shell := shell.push [.run condition, .loopCheck isUntil condition body status] }
  | .loopCheck isUntil condition body last =>
    if (status == 0) == isUntil then shell.done last
    else { shell := shell.push [.run body, .loop isUntil condition body] }
  | .each _ [] _ => { shell }
  | .each name (value :: values) body =>
    { shell := (shell.assignAll [(name, value)]).push [.run body, .each name values body] }
  | .fill command => { shell := shell.push [.run command] }
  | .feed command => { shell := shell.push [.run command] }
  | .feedText text command =>
    { shell, request := .await { shell.child [.run command] with input := text } }
  | .restore _ _ | .endCall _ => { shell := shell.passOver task }
  | .endTrap status => shell.done status
  | .become label arguments bindings =>
    { shell, request := .become label arguments (shell.environment bindings) }
  | .check =>
    if status = 0 || shell.tasks.any Task.isTest then { shell } else shell.finish status
  | .leave code => ({ shell with handlers := [] } : State).finish code

/-- Takes the next step: what a signal asks for comes first. -/
def step (files : FileTree) (shell : State) : Turn :=
  match shell.pending with
  | number :: pending =>
    let shell := { shell with pending }
    let action := (shell.handlers.lookup number).getD []
    { shell := shell.push [.source (.ofText action), .endTrap shell.scope.status] }
  | [] =>
    match shell.tasks with
    | [] => shell.finish shell.scope.status
    | task :: tasks => doTask files { shell with tasks } task

/-! ## Answers of the system -/

/-- A text without the line feeds at its end. -/
def withoutLastFeeds (text : List Char) : List Char :=
  (text.reverse.dropWhile (· = '\n')).reverse

namespace State

/-- The shell after a command has ended that it waited for. -/
def awaited (shell : State) (status : Nat) : State := shell.ended status

def captured (shell : State) (printed : List UInt8) (status : Nat) : State :=
  match shell.tasks with
  | .fill command :: tasks =>
    let text := withoutLastFeeds (Builtin.characters printed)
    let shell := shell.ended status
    { shell with tasks := .run (command.fill text) :: tasks, outputStatus := some status }
  | .feed command :: tasks => { shell with tasks := .feedText printed command :: tasks }
  | _ => shell

/-- The shell with a command in the background. -/
def started (shell : State) (job : Nat) : State :=
  { shell with scope := { shell.scope with lastJob := some job } }

end State

end ThrowawayServer.Shell
