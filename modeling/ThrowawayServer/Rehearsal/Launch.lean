import ThrowawayServer.Rehearsal.Shell.Step
import ThrowawayServer.Rehearsal.Utility

/-!
# Launching programs

What the file at a path becomes when it is run: a program of the system, or a script for the
interpreter that its first line names.
-/

set_option autoImplicit false

namespace ThrowawayServer

/-- A program of the system with its arguments, of which the first is the name it is run under. -/
structure Launch where
  program : String
  arguments : List (List Char)
  deriving DecidableEq, Repr

namespace Launch

/-- The interpreter and the argument for it that the first line of a script names. -/
def interpreter? (content : List UInt8) : Option (List Char × Option (List Char)) :=
  let line := Shell.Builtin.characters (content.takeWhile (· ≠ 10))
  match line with
  | '#' :: '!' :: rest =>
    let isBlank (c : Char) : Bool := c = ' ' || c = '\t'
    let text := (rest.dropWhile isBlank).reverse.dropWhile isBlank
    let path := text.reverse.takeWhile fun c => !isBlank c
    let argument := (text.reverse.drop path.length).dropWhile isBlank
    if path.isEmpty then none
    else some (path, if argument.isEmpty then none else some argument)
  | _ => none

/-- What running the file at a path comes to. `depth` bounds the number of interpreters. -/
def ofFile (files : FileTree) (directory : FileNames) :
    Nat → String → List (List Char) → Except OsError Launch
  | 0, _, _ => .error .wrongExecutableFormat
  | depth + 1, path, arguments =>
    match files.find directory path with
    | .error error => .error error
    | .ok (.utility program) => .ok { program, arguments }
    | .ok (.file content true) =>
      match interpreter? content with
      | none => .error .wrongExecutableFormat
      | some (interpreter, argument) =>
        let words := interpreter :: argument.toList ++ path.toList :: arguments.drop 1
        ofFile files directory depth (String.ofList interpreter) words
    | .ok _ => .error .permissionDenied

/-- The directories that are searched for programs. -/
def searchPath : List String := ["/usr/local/bin", "/usr/bin", "/bin"]

/-- The path of the program that a name stands for; a name with a slash is a path. -/
def findProgram (files : FileTree) (directory : FileNames) (name : String) :
    Except OsError String :=
  if name.toList.contains '/' then .ok name
  else
    let paths := searchPath.map fun folder => folder ++ "/" ++ name
    match paths.find? fun path => (files.find directory path).toOption.any (·.isExecutable) with
    | some path => if name.isEmpty then .error .notFound else .ok path
    | none => .error .notFound

/-- What running a program by its name comes to. -/
def ofName (files : FileTree) (directory : FileNames) (name : String)
    (arguments : List (List Char)) : Except OsError Launch := do
  ofFile files directory 5 (← findProgram files directory name) arguments

def isShell (program : String) : Bool := ["sh", "dash", "bash"].contains program

/-- The programs that run another program, which their arguments name, with more variables. -/
def wrapped? (launch : Launch) : Option (List (String × List Char) × List (List Char)) :=
  if launch.program ≠ "env" then none
  else
    let bindings := (launch.arguments.drop 1).takeWhile (·.contains '=')
    match launch.arguments.drop (1 + bindings.length) with
    | [] => none
    | words =>
      let named := bindings.filterMap fun text =>
        (Text.splitFirst '=' text).map fun (name, value) => (String.ofList name, value)
      some (named, words)

end Launch

namespace Shell

/-- The options of a shell and what follows them: whether a failure ends it, whether the script is an
argument, and the other arguments. -/
def readOptions : List (List Char) → Bool × Bool × List (List Char)
  | ('-' :: letter :: letters) :: rest =>
    if letter = '-' then (false, false, rest)
    else
      let (exits, isText, rest) := readOptions rest
      (exits || (letter :: letters).contains 'e', isText || (letter :: letters).contains 'c', rest)
  | rest => (false, false, rest)

/-- The shell that its arguments ask for, with its environment. A script that cannot be read is left out
and the complaint about it is returned. -/
def State.launch (files : FileTree) (arguments : List (List Char)) (base : State) :
    State × Option String :=
  let (exitsOnFailure, isText, words) := readOptions (arguments.drop 1)
  let own := arguments.headD []
  let start (name : List Char) (words : List (List Char)) (text : List Char) : State :=
    { base with
      scope := { base.scope with name, arguments := words }
      tasks := [.source (.ofText text)]
      exitsOnFailure }
  match isText, words with
  | true, text :: name :: rest => (start name rest text, none)
  | true, [text] => (start own [] text, none)
  | true, [] => ({ start own [] [] with tasks := [.leave 2] }, some "-c requires an argument")
  | false, [] => (start own [] (Builtin.characters base.input), none)
  | false, path :: rest =>
    match files.read base.directory (String.ofList path) with
    | .ok content => (start path rest (Builtin.characters content), none)
    | .error _ =>
      ({ start own [] [] with line := 0, tasks := [.leave 2] },
        some s!"cannot open {String.ofList path}: No such file")

end Shell

end ThrowawayServer
