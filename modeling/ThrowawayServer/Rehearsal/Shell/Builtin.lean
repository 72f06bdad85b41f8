import ThrowawayServer.Rehearsal.Shell.Condition
import ThrowawayServer.Rehearsal.Shell.Redirect

/-!
# Commands of the shell itself

The commands that act on the shell: they set variables, leave loops, handle signals and end the
script. Each takes its arguments and the shell, and comes back with what the shell is then to do.
-/

set_option autoImplicit false

namespace ThrowawayServer.Shell

/-- Signals by name and number. -/
def signalNames : List (String × Nat) :=
  [("HUP", 1), ("INT", 2), ("QUIT", 3), ("ILL", 4), ("TRAP", 5), ("ABRT", 6), ("BUS", 7), ("FPE", 8),
    ("KILL", 9), ("USR1", 10), ("SEGV", 11), ("USR2", 12), ("PIPE", 13), ("ALRM", 14), ("TERM", 15),
    ("CHLD", 17), ("CONT", 18), ("STOP", 19), ("TSTP", 20), ("TTIN", 21), ("TTOU", 22)]

/-- The number of a signal that is named or numbered; zero is the end of the script. -/
def signalNumber? (text : String) : Option Nat :=
  if text.toUpper = "EXIT" then some 0
  else
    match (Text.readDigits 10 64 0 text.toList).toOption.filter fun _ => !text.isEmpty with
    | some number => some number
    | none => signalNames.lookup text.toUpper

namespace State

/-- The path of the directory that the shell is in, by the names that led there. -/
def directoryText (shell : State) (files : FileTree) : String :=
  let path := String.ofList ((shell.scope.value? "PWD").getD [])
  match files.locate [] path with
  | .ok names =>
    if path.startsWith "/" && names = shell.directory then path
    else FileTree.pathText shell.directory
  | .error _ => FileTree.pathText shell.directory

/-- Ends a turn with nothing to ask for. -/
def done (shell : State) (status : Nat) : Turn := { shell := shell.ended status }

/-- Ends a turn with a complaint and a status. -/
def complain (shell : State) (text : String) (status : Nat) : Turn :=
  { shell := shell.ended status, request := .print 2 (shell.complaint text) none }

/-- Ends the script with a code, after what is to be done at the end. -/
def finish (shell : State) (code : Nat) : Turn :=
  match (shell.handlers.lookup 0).filter fun action => !action.isEmpty with
  | some action =>
    { shell := { shell.ended code with
        tasks := [.source (.ofText action), .leave code]
        handlers := shell.handlers.filter fun (number, _) => number ≠ 0 } }
  | none => { shell := { shell with tasks := [] }, request := .finish (code % 256) }

/-- Ends the script with a complaint. -/
def giveUp (shell : State) (text : String) : Turn :=
  { shell := { shell with tasks := [.leave 2] }, request := .print 2 (shell.complaint text) none }

/-- Undoes what a task that is passed over stands for. -/
def passOver (shell : State) : Task → State
  | .restore sinks input => { shell with sinks, input := input.getD shell.input }
  | .endCall arguments => { shell with scope := { shell.scope with arguments } }
  | _ => shell

/-- Leaves loops. `continues` tells whether the last of them goes on with its next round. -/
def leaveLoops (continues : Bool) : List Task → Nat → State → State
  | [], _, shell => { shell with tasks := [] }
  | task :: rest, count, shell =>
    let shell := { shell with tasks := rest }
    match task with
    | .loop _ _ _ | .each _ _ _ =>
      if count ≤ 1 then if continues then { shell with tasks := task :: rest } else shell
      else leaveLoops continues rest (count - 1) shell
    | .loopCheck isUntil condition body _ =>
      if count ≤ 1 then
        if continues then { shell with tasks := .loop isUntil condition body :: rest }
        else shell
      else leaveLoops continues rest (count - 1) shell
    | _ => leaveLoops continues rest count (shell.passOver task)

/-- Whether a loop is being run. -/
def isInLoop (shell : State) : Bool :=
  shell.tasks.any fun
    | .loop _ _ _ | .each _ _ _ | .loopCheck _ _ _ _ => true
    | _ => false

/-- Leaves the function that is being run, or the script if there is none. -/
def leaveCall : List Task → State → State
  | [], shell => { shell with tasks := [] }
  | task :: rest, shell =>
    match task with
    | .endCall _ => { shell.passOver task with tasks := rest }
    | _ => leaveCall rest (shell.passOver task)

end State

/-- The number in an argument. -/
def count? (text : List Char) : Option Nat :=
  if text.isEmpty then none else (Text.readDigits 10 0x80000000 0 text).toOption

/-- The wording for an argument that is no number. -/
def illegalNumber (command : String) (text : List Char) : String :=
  s!"{command}: Illegal number: {String.ofList text}"

/-- The arguments with blanks between them. -/
def joined (arguments : List (List Char)) : List Char := List.intercalate [' '] arguments

/-- A name and the value that an argument gives to it. -/
def assignment (argument : List Char) : String × Option (List Char) :=
  match Text.splitFirst '=' argument with
  | some (name, value) => (String.ofList name, some value)
  | none => (String.ofList argument, none)

namespace Builtin

/-- Makes variables known to programs, with values for some. -/
def publish (shell : State) (arguments : List (List Char)) : Turn :=
  let shell := arguments.foldl (fun shell argument =>
    let (name, value) := assignment argument
    let scope := value.elim shell.scope fun value => shell.scope.assign name value
    { shell with scope, exported := name :: shell.exported.erase name }) shell
  shell.done 0

/-- Sets variables. -/
def declare (shell : State) (arguments : List (List Char)) : Turn :=
  let scope := arguments.foldl (fun scope argument =>
    let (name, value) := assignment argument
    value.elim scope fun value => scope.assign name value) shell.scope
  ({ shell with scope } : State).done 0

/-- Takes variables and functions away. -/
def unset (shell : State) (arguments : List (List Char)) : Turn :=
  let names := arguments.map String.ofList
  let bindings := shell.scope.bindings.filter fun (name, _) => !names.contains name
  let functions := shell.functions.filter fun (name, _) => !names.contains name
  ({ shell with scope := { shell.scope with bindings }, functions } : State).done 0

/-- The letter of an option that is named. -/
def optionLetters : List (String × Char) :=
  [("errexit", 'e'), ("nounset", 'u'), ("xtrace", 'x'), ("noglob", 'f'), ("noclobber", 'C'),
    ("allexport", 'a'), ("notify", 'b'), ("verbose", 'v'), ("monitor", 'm'), ("noexec", 'n')]

/-- Turns options on or off by their letters. -/
def switchOptions (shell : State) (isOn : Bool) (letters : List Char) : State :=
  letters.foldl (fun shell letter =>
    if letter = 'e' then { shell with exitsOnFailure := isOn }
    else if letter = 'u' then { shell with scope := { shell.scope with needsValues := isOn } }
    else shell) shell

/-- Whether a character begins an option that is turned on or off. -/
def isSwitch (sign : Char) : Bool := sign = '-' || sign = '+'

def putArguments (shell : State) (arguments : List (List Char)) : Turn :=
  ({ shell with scope := { shell.scope with arguments } } : State).done 0

/-- Sets options or the arguments of the script. -/
def setOptions (shell : State) : List (List Char) → Turn
  | [] => shell.done 0
  | ['-', '-'] :: rest => putArguments shell rest
  | [sign, 'o'] :: name :: rest =>
    if isSwitch sign then
      match optionLetters.lookup (String.ofList name) with
      | some letter => setOptions (switchOptions shell (sign = '-') [letter]) rest
      | none => shell.giveUp s!"set: Illegal option -o {String.ofList name}"
    else putArguments shell ([sign, 'o'] :: name :: rest)
  | (sign :: letters) :: rest =>
    if isSwitch sign then
      match letters.find? fun letter => !(optionLetters.map (·.2)).contains letter with
      | some letter => shell.giveUp s!"set: Illegal option -{letter}"
      | none => setOptions (switchOptions shell (sign = '-') letters) rest
    else putArguments shell ((sign :: letters) :: rest)
  | [] :: rest => putArguments shell ([] :: rest)

/-- Drops arguments of the script. -/
def shift (shell : State) (arguments : List (List Char)) : Turn :=
  match count? (arguments.headD ['1']) with
  | none => shell.giveUp (illegalNumber "shift" (arguments.headD []))
  | some n =>
    if n ≤ shell.scope.arguments.length then
      let scope := { shell.scope with arguments := shell.scope.arguments.drop n }
      ({ shell with scope } : State).done 0
    else shell.giveUp "shift: can't shift that many"

/-- Says what is to be done on signals. -/
def trap (shell : State) (arguments : List (List Char)) : Turn :=
  let arguments := if arguments.head? = some ['-', '-'] then arguments.drop 1 else arguments
  match arguments with
  | [] => shell.done 0
  | first :: rest =>
    let resets := first = ['-'] || rest.isEmpty || (count? first).isSome
    let texts := (if first = ['-'] || !resets then rest else arguments).map String.ofList
    match texts.find? fun text => (signalNumber? text).isNone with
    | some text =>
      { shell := shell.ended 1, request := .print 2 (Printing.bytes s!"trap: {text}: bad trap\n") none }
    | none =>
      let numbers := texts.filterMap signalNumber?
      let others := shell.handlers.filter fun (number, _) => !numbers.contains number
      let handlers := if resets then others else numbers.map (fun number => (number, first)) ++ others
      ({ shell with handlers } : State).done 0

/-- The wording for a text that names no signal. -/
def noSignal (text : List Char) : String :=
  s!"kill: invalid signal number or name: {String.ofList text}"

/-- The wording for an option that names no signal. -/
def noOption (text : List Char) : String :=
  s!"kill: Illegal option -{String.ofList (text.take 1)}"

/-- The number of the signal to send, and the receivers. -/
def killTargets (arguments : List (List Char)) : Except String (Nat × List (List Char)) :=
  let named (badSignal : List Char → String) (text : List Char) (rest : List (List Char)) :
      Except String (Nat × List (List Char)) :=
    match signalNumber? (String.ofList text) with
    | some number => .ok (number, rest)
    | none => .error (badSignal text)
  match arguments with
  | ['-', '-'] :: rest => .ok (15, rest)
  | ['-', 's'] :: text :: rest => named noSignal text rest
  | ('-' :: text) :: ['-', '-'] :: rest => named noOption text rest
  | ('-' :: text) :: rest => named noOption text rest
  | rest => .ok (15, rest)

/-- The number of a process, or of a group below zero. -/
def processNumber? (text : List Char) : Option Int :=
  match text with
  | '-' :: digits => (count? digits).map fun n => -n
  | digits => (count? digits).map Int.ofNat

/-- Sends a signal. -/
def kill (shell : State) (arguments : List (List Char)) : Turn :=
  match killTargets arguments with
  | .error text => shell.complain text 2
  | .ok (_, []) =>
    shell.complain "kill: Usage: kill [-s sigspec | -signum | -sigspec] [pid | job]... or" 2
  | .ok (number, targets) =>
    match targets.find? fun text => (processNumber? text).isNone with
    | some text => shell.complain (illegalNumber "kill" text) 2
    | none => { shell, request := .signal (targets.filterMap processNumber?) number }

/-- The names of a path from the root, where two dots take back the name before them. -/
def logicalNames (start : FileNames) (path : String) : FileNames :=
  (FileTree.pathNames path).foldl (fun names name =>
    if name = "." then names else if name = ".." then names.dropLast else names ++ [name])
    (if path.startsWith "/" then [] else start)

/-- Goes to a directory. -/
def cd (files : FileTree) (shell : State) (arguments : List (List Char)) : Turn :=
  let target := String.ofList (arguments.headD ((shell.scope.value? "HOME").getD ['/']))
  let path := FileTree.pathText
    (logicalNames (FileTree.pathNames (shell.directoryText files)) target)
  match files.locate shell.directory (if target.isEmpty then "." else path) with
  | .ok names =>
    if files.entryAt names = some .directory then
      let scope := shell.scope.assign "PWD" path.toList
      ({ shell with directory := names, scope } : State).done 0
    else shell.complain s!"cd: can't cd to {target}" 2
  | .error _ => shell.complain s!"cd: can't cd to {target}" 2

/-- The first line of some bytes without its line feed, what follows it, and whether a line feed ended
it. -/
def takeLine (bytes : List UInt8) : List UInt8 × List UInt8 × Bool :=
  let line := bytes.takeWhile (· ≠ 10)
  (line, bytes.drop (line.length + 1), line.length < bytes.length)

/-- The characters of bytes; bytes that are no text count as one character each. -/
def characters (bytes : List UInt8) : List Char :=
  (Text.decodeUtf8? bytes).getD (bytes.map fun byte => Char.ofNat byte.toNat)

/-- Gives the words of a line to variables; the last one takes the rest of the line. -/
def assignWords (scope : Scope) : List String → List Char → Scope
  | [], _ => scope
  | [name], text =>
    let kept := (text.dropWhile isSeparator).reverse.dropWhile isSeparator
    scope.assign name kept.reverse
  | name :: names, text =>
    let text := text.dropWhile isSeparator
    let word := text.takeWhile fun c => !isSeparator c
    assignWords (scope.assign name word) names (text.drop word.length)

/-- Reads a line into variables. -/
def read (shell : State) (arguments : List (List Char)) : Turn :=
  let names := (arguments.map String.ofList).filter fun name => !name.startsWith "-"
  let (line, rest, isWhole) := takeLine shell.input
  let scope := assignWords shell.scope (if names.isEmpty then ["REPLY"] else names) (characters line)
  ({ shell with scope, input := rest } : State).done (if isWhole then 0 else 1)

/-- Ends the script. -/
def exit (shell : State) (arguments : List (List Char)) : Turn :=
  match arguments with
  | [] => shell.finish shell.scope.status
  | text :: _ =>
    match count? text with
    | some code => shell.finish code
    | none => shell.giveUp (illegalNumber "exit" text)

/-- Leaves loops, or goes on with their next round. -/
def leaveLoop (continues : Bool) (name : String) (shell : State) (arguments : List (List Char)) :
    Turn :=
  match count? (arguments.headD ['1']) with
  | none | some 0 => shell.giveUp (illegalNumber name (arguments.headD []))
  | some n =>
    if shell.isInLoop then (State.leaveLoops continues shell.tasks n shell).done 0
    else shell.done 0

def leaveFunction (shell : State) (arguments : List (List Char)) : Turn :=
  match arguments with
  | [] => (State.leaveCall shell.tasks shell).done shell.scope.status
  | text :: _ =>
    match count? text with
    | some status => (State.leaveCall shell.tasks shell).done status
    | none => shell.giveUp (illegalNumber "return" text)

/-- Decides a condition. -/
def test (files : FileTree) (shell : State) (name : String) (arguments : List (List Char)) : Turn :=
  let texts := arguments.map String.ofList
  let texts? := if name = "[" then
      if texts.getLast? = some "]" then some texts.dropLast else none
    else some texts
  match texts? with
  | none => shell.complain "[: missing ]" 2
  | some texts =>
    match Condition.decide? files shell.directory (texts.length + 2) texts with
    | .ok true => shell.done 0
    | .ok false => shell.done 1
    | .error text => shell.complain s!"{name}: {text}" 2

/-- Prints, and ends with the status that belongs to it. -/
def print (shell : State) (writer : String) (printed : Printed) : Turn :=
  { shell := shell.ended printed.status, request := .print 1 printed.out (some writer) }

/-- Waits for commands in the background. -/
def wait (shell : State) (arguments : List (List Char)) : Turn :=
  { shell, request := .awaitJobs (if arguments.isEmpty then none else some (arguments.filterMap count?)) }

/-- Runs a text as a script. -/
def eval (shell : State) (arguments : List (List Char)) : Turn :=
  let script := Script.ofText (joined arguments)
  { shell := (shell.ended 0).push [.source { script with lastLine := script.lastLine + shell.line - 1 }] }

/-- Runs a file as a script. -/
def source (files : FileTree) (shell : State) (arguments : List (List Char)) : Turn :=
  match arguments with
  | [] => shell.done 0
  | path :: _ =>
    match files.read shell.directory (String.ofList path) with
    | .ok content => { shell := shell.push [.source (.ofText (characters content))] }
    | .error _ => shell.giveUp s!".: cannot open {String.ofList path}: No such file"

/-- The path of the first file that can be run under a name. -/
def whereIs? (files : FileTree) (name : String) : Option String :=
  ["/usr/local/bin", "/usr/bin", "/bin"].findSome? fun directory =>
    let path := directory ++ "/" ++ name
    if files.isFile [] path then some path else none

def names : List String :=
  [":", ".", "[", "alias", "break", "cd", "command", "continue", "echo", "eval", "exec", "exit", "export",
    "false", "hash", "kill", "local", "printf", "pwd", "read", "readonly", "return", "set", "shift",
    "test", "times", "trap", "true", "type", "ulimit", "umask", "unset", "wait"]

def tell (files : FileTree) (shell : State) (writer : String) (arguments : List (List Char)) : Turn :=
  let found := arguments.map fun argument =>
    let name := String.ofList argument
    if (shell.functions.lookup name).isSome then some s!"{name} is a shell function\n"
    else if names.contains name then some s!"{name} is a shell builtin\n"
    else (whereIs? files name).map fun path => s!"{name} is {path}\n"
  let lines := (arguments.zip found).map fun (argument, line) =>
    line.getD (String.ofList argument ++ ": not found\n")
  print shell writer
    { out := Printing.bytes (String.join lines), status := if found.all Option.isSome then 0 else 127 }

end Builtin

/-- What a command of the shell itself does, if there is one with this name. -/
def builtin? (files : FileTree) (shell : State) (name : String) (arguments : List (List Char)) :
    Option Turn :=
  match name with
  | ":" | "true" | "umask" | "ulimit" | "hash" | "times" | "alias" => some (shell.done 0)
  | "false" => some (shell.done 1)
  | "echo" => some (Builtin.print shell name (Printing.echo arguments))
  | "printf" =>
    some (if arguments.isEmpty then shell.complain "printf: usage: printf format [arg ...]" 2
      else Builtin.print shell name (Printing.printf arguments))
  | "test" | "[" => some (Builtin.test files shell name arguments)
  | "exit" => some (Builtin.exit shell arguments)
  | "return" => some (Builtin.leaveFunction shell arguments)
  | "break" => some (Builtin.leaveLoop false name shell arguments)
  | "continue" => some (Builtin.leaveLoop true name shell arguments)
  | "eval" => some (Builtin.eval shell arguments)
  | "." => some (Builtin.source files shell arguments)
  | "export" => some (Builtin.publish shell arguments)
  | "readonly" | "local" => some (Builtin.declare shell arguments)
  | "unset" => some (Builtin.unset shell arguments)
  | "set" => some (Builtin.setOptions shell arguments)
  | "shift" => some (Builtin.shift shell arguments)
  | "trap" => some (Builtin.trap shell arguments)
  | "kill" => some (Builtin.kill shell arguments)
  | "cd" => some (Builtin.cd files shell arguments)
  | "pwd" => some (Builtin.print shell name { out := Printing.bytes (shell.directoryText files ++ "\n") })
  | "type" => some (Builtin.tell files shell name arguments)
  | "read" => some (Builtin.read shell arguments)
  | "wait" => some (Builtin.wait shell arguments)
  | _ => none

end ThrowawayServer.Shell
