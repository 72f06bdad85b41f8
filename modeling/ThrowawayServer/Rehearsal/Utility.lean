import ThrowawayServer.Rehearsal.Shell.Builtin
import ThrowawayServer.Text.Blank

/-!
# Programs of the system

The small programs that scripts use. Each of them reads what it needs at once, prints, and ends after
some time.
-/

set_option autoImplicit false

namespace ThrowawayServer

structure UtilityRun where
  out : List UInt8 := []
  err : List UInt8 := []
  status : Nat := 0
  /-- The time after printing in microseconds; none if the program does not end by itself. -/
  duration : Option Nat := some 0
  /-- Whether it prints the same again and again. -/
  repeats : Bool := false
  /-- The files if the program has changed them. -/
  files : Option FileTree := none

/-- What a program is started with. -/
structure UtilityCall where
  /-- The name under which it was started. -/
  label : String
  arguments : List (List Char)
  bindings : List (String × List Char) := []
  directory : FileNames := []
  input : List UInt8 := []
  files : FileTree := {}

namespace Utility

def bytes (text : String) : List UInt8 := Shell.Printing.bytes text

/-- A run that only complains. -/
def fault (call : UtilityCall) (status : Nat) (text : String) : UtilityRun :=
  { err := bytes s!"{call.label}: {text}\n", status }

/-- A run that complains about how the program was called. -/
def usage (call : UtilityCall) (text : String) : UtilityRun :=
  { err := bytes s!"{call.label}: {text}\nTry '{call.label} --help' for more information.\n"
    status := 1 }

def texts (call : UtilityCall) : List String := call.arguments.map String.ofList

def isOption (text : String) : Bool := text.startsWith "-" && text.length > 1

/-- A number of seconds with decimals, in microseconds. -/
def microseconds? (text : List Char) : Option Nat :=
  let digits? (text : List Char) : Option Nat := (Text.readDigits 10 1000000000000000 0 text).toOption
  match Text.splitFirst '.' text with
  | none => if text.isEmpty then none else (digits? text).map (· * 1000000)
  | some (whole, part) => do
    if whole.isEmpty && part.isEmpty then none
    let decimals := (part ++ List.replicate 6 '0').take 6
    let _ ← digits? part
    return (← digits? whole) * 1000000 + (← digits? decimals)

/-- A duration with a unit, in microseconds; none inside if it has no end. -/
def duration? (text : List Char) : Option (Option Nat) :=
  if text = "infinity".toList || text = "inf".toList then some none
  else
    let scaled (digits : List Char) (factor : Nat) : Option (Option Nat) :=
      (microseconds? digits).map fun time => some (time * factor)
    match text.reverse with
    | 's' :: digits => scaled digits.reverse 1
    | 'm' :: digits => scaled digits.reverse 60
    | 'h' :: digits => scaled digits.reverse 3600
    | 'd' :: digits => scaled digits.reverse 86400
    | _ => scaled text 1

/-- Waits for the sum of some durations. -/
def sleep (call : UtilityCall) : UtilityRun :=
  match call.arguments.find? fun text => (duration? text).isNone with
  | some text => usage call s!"invalid time interval '{String.ofList text}'"
  | none =>
    if call.arguments.isEmpty then usage call "missing operand"
    else
      let times := call.arguments.filterMap duration?
      let total := (times.filterMap id).foldl (· + ·) 0
      { duration := if times.all Option.isSome then some total else none }

/-- The wording for a file that cannot be read. -/
def unreadable (text : String) : OsError → String
  | .isADirectory => s!"{text}: Is a directory"
  | .notADirectory => s!"{text}: Not a directory"
  | _ => s!"{text}: No such file or directory"

/-- The bytes of all files that are named, or of the input. -/
def contents (call : UtilityCall) (paths : List String) : UtilityRun :=
  if paths.isEmpty then { out := call.input }
  else
    paths.foldl (fun run path =>
      if path = "-" then { run with out := run.out ++ call.input }
      else
        match call.files.read call.directory path with
        | .ok content => { run with out := run.out ++ content }
        | .error error =>
          let complaint := bytes s!"{call.label}: {unreadable path error}\n"
          { run with err := run.err ++ complaint, status := 1 }) {}

/-- Prints files one after the other. -/
def cat (call : UtilityCall) : UtilityRun :=
  match (texts call).find? fun text => isOption text && text ≠ "-u" with
  | some text =>
    let letter := (text.toList.drop 1).take 1
    usage call ("invalid option -- '" ++ String.ofList letter ++ "'")
  | none => contents call ((texts call).filter (· ≠ "-u"))

/-- Prints its arguments. -/
def echo (call : UtilityCall) : UtilityRun :=
  let flags := call.arguments.takeWhile fun text => text = ['-', 'n'] || text = ['-', 'e']
  let text := List.intercalate [' '] (call.arguments.drop flags.length)
  let found := if flags.contains ['-', 'e'] then (Shell.Printing.unescape 0 text).1
    else Text.encodeUtf8 text
  { out := if flags.contains ['-', 'n'] then found else found ++ [10] }

def listing (files : FileTree) (directory : FileNames) : List String :=
  let names := files.entries.filterMap fun (names, _) =>
    if names.dropLast = directory then names.getLast? else none
  (names.filter fun name => !name.startsWith ".").mergeSort (· ≤ ·)

/-- Prints its arguments as lines without an end. -/
def yes (call : UtilityCall) : UtilityRun :=
  let words := if call.arguments.isEmpty then [['y']] else call.arguments
  let line := Text.encodeUtf8 (List.intercalate [' '] words) ++ [10]
  { out := (List.replicate (8192 / line.length + 1) line).flatten, repeats := true }

/-- Prints the names of files or of what is in directories. -/
def ls (call : UtilityCall) : UtilityRun :=
  let paths := (texts call).filter fun text => !isOption text
  let keeps := (texts call).any fun text => isOption text && text.toList.contains 'd'
  (if paths.isEmpty then ["."] else paths).foldl (fun run path =>
    match call.files.locate call.directory path with
    | .ok names =>
      match call.files.entryAt names with
      | some .directory =>
        let lines := if keeps then [path] else listing call.files names
        { run with out := run.out ++ bytes (String.join (lines.map (· ++ "\n"))) }
      | some _ => { run with out := run.out ++ bytes (path ++ "\n") }
      | none =>
        let complaint := s!"{call.label}: cannot access '{path}': No such file or directory\n"
        { run with err := run.err ++ bytes complaint, status := 2 }
    | .error error =>
      let reason := unreadable s!"'{path}'" error
      let complaint := s!"{call.label}: cannot access {reason}\n"
      { run with err := run.err ++ bytes complaint, status := 2 }) {}

/-- Prints variables. -/
def printenv (call : UtilityCall) : UtilityRun :=
  match texts call with
  | [] =>
    { out := call.bindings.flatMap fun (name, value) =>
        bytes (name ++ "=") ++ Text.encodeUtf8 value ++ [10] }
  | names =>
    let values := names.filterMap fun name => call.bindings.lookup name
    { out := values.flatMap fun value => Text.encodeUtf8 value ++ [10]
      status := if values.length = names.length then 0 else 1 }

/-- Prints whole numbers from a first to a last one. -/
def seq (call : UtilityCall) : UtilityRun :=
  let numbers := call.arguments.map Shell.Printing.numberOf
  let count (first step last : Int) : List Int :=
    if step = 0 then []
    else (List.range (((last - first) / step + 1).toNat)).map fun (n : Nat) => first + step * n
  let found := match numbers with
    | [last] => count 1 1 last
    | [first, last] => count first 1 last
    | [first, step, last] => count first step last
    | _ => []
  { out := bytes (String.join (found.map fun n => s!"{n}\n")) }

/-- Bytes cut after every line feed. -/
def byteLines : List UInt8 → List (List UInt8)
  | [] => []
  | byte :: rest =>
    if byte = 10 then [10] :: byteLines rest
    else
      match byteLines rest with
      | [] => [[byte]]
      | line :: lines => (byte :: line) :: lines

/-- A limit that is given as an option: whether it counts bytes, the number, and the other
arguments. -/
def limit : List String → Bool × Nat × List String
  | "-c" :: n :: rest => (true, n.toNat?.getD 0, rest)
  | "-n" :: n :: rest => (false, n.toNat?.getD 10, rest)
  | text :: rest =>
    if text.startsWith "-c" then (true, (text.drop 2).toNat?.getD 0, rest)
    else if text.startsWith "-n" then (false, (text.drop 2).toNat?.getD 10, rest)
    else if isOption text then (false, (text.drop 1).toNat?.getD 10, rest)
    else (false, 10, text :: rest)
  | [] => (false, 10, [])

/-- Prints the first bytes or lines. -/
def head (call : UtilityCall) : UtilityRun :=
  let (countsBytes, n, paths) := limit (texts call)
  if paths = ["/dev/zero"] then { out := List.replicate n 0 }
  else
    let run := contents call paths
    { run with out := if countsBytes then run.out.take n else ((byteLines run.out).take n).flatten }

/-- Prints the last bytes or lines. -/
def tail (call : UtilityCall) : UtilityRun :=
  let (countsBytes, n, paths) := limit (texts call)
  let run := contents call paths
  let lines := byteLines run.out
  { run with
    out := if countsBytes then run.out.drop (run.out.length - n)
      else (lines.drop (lines.length - n)).flatten }

/-- The characters that a set of `tr` stands for. -/
def characterSet (fuel : Nat) (text : List Char) : List Char :=
  match fuel, text with
  | 0, _ | _, [] => []
  | fuel + 1, '\\' :: rest =>
    let (found, length) := Shell.Printing.escape false rest
    found.map (fun byte => Char.ofNat byte.toNat) ++ characterSet fuel (rest.drop length)
  | fuel + 1, low :: '-' :: high :: rest =>
    (List.range (high.toNat + 1 - low.toNat)).map (fun n => Char.ofNat (low.toNat + n)) ++
      characterSet fuel rest
  | fuel + 1, c :: rest => c :: characterSet fuel rest

/-- Replaces or deletes characters. -/
def tr (call : UtilityCall) : UtilityRun :=
  let chars := Shell.Builtin.characters call.input
  match call.arguments with
  | ['-', 'd'] :: deleted :: _ =>
    let deleted := characterSet deleted.length deleted
    { out := Text.encodeUtf8 (chars.filter fun c => !deleted.contains c) }
  | old :: new :: _ =>
    let old := characterSet old.length old
    let new := characterSet new.length new
    let change (c : Char) : Char :=
      match old.idxOf? c with
      | some n => (new[n]? <|> new.getLast?).getD c
      | none => c
    { out := Text.encodeUtf8 (chars.map change) }
  | _ => usage call "missing operand"

/-- Counts lines, words or bytes. -/
def wc (call : UtilityCall) : UtilityRun :=
  let options := (texts call).filter isOption
  let run := contents call ((texts call).filter fun text => !isOption text)
  let lines := run.out.count 10
  let count := if options.contains "-l" then lines
    else if options.contains "-w" then (Text.words (Shell.Builtin.characters run.out)).length
    else run.out.length
  { run with out := bytes s!"{count}\n" }

/-- The last name of a path. -/
def basename (call : UtilityCall) : UtilityRun :=
  match texts call with
  | path :: suffix =>
    let name := ((FileTree.pathNames path).filter (· ≠ ".")).getLastD "/"
    let name := match suffix with
      | ending :: _ => if name.endsWith ending && name ≠ ending then (name.dropEnd ending.length).toString else name
      | [] => name
    { out := bytes (name ++ "\n") }
  | [] => usage call "missing operand"

/-- A path without its last name. -/
def dirname (call : UtilityCall) : UtilityRun :=
  match texts call with
  | path :: _ =>
    let parts := (FileTree.pathNames path).dropLast
    let found := if path.startsWith "/" then FileTree.pathText parts
      else if parts.isEmpty then "." else Text.join "/" parts
    { out := bytes (found ++ "\n") }
  | [] => usage call "missing operand"

/-- Changes the files at the paths among the arguments. -/
def change (call : UtilityCall) (f : FileTree → FileNames → FileTree) : UtilityRun :=
  let paths := (texts call).filter fun text => !isOption text
  { files := some (paths.foldl (fun files path =>
      match files.locate call.directory path with
      | .ok names => f files names
      | .error _ => files) call.files) }

/-- Makes directories. -/
def mkdir (call : UtilityCall) : UtilityRun :=
  let paths := (texts call).filter fun text => !isOption text
  { files := some (paths.foldl (fun files path =>
      (files.makeDirectory call.directory path).toOption.getD files) call.files) }

/-- Makes files. -/
def touch (call : UtilityCall) : UtilityRun :=
  change call fun files names =>
    if (files.entryAt names).isSome then files else files.replace names (.file [] false)

/-- Removes files and what is below them. -/
def rm (call : UtilityCall) : UtilityRun :=
  change call fun files names =>
    { entries := files.entries.filter fun (found, _) => !(names.isPrefixOf found) }

/-- Decides a condition. -/
def test (call : UtilityCall) (isBracket : Bool) : UtilityRun :=
  let texts := if isBracket then (texts call).dropLast else texts call
  match Shell.Condition.decide? call.files call.directory (texts.length + 2) texts with
  | .ok answer => { status := if answer then 0 else 1 }
  | .error text => { fault call 2 text with status := 2 }

def run (name : String) (call : UtilityCall) : UtilityRun :=
  match name with
  | "sleep" => sleep call
  | "cat" => cat call
  | "echo" => echo call
  | "printf" => { out := (Shell.Printing.printf call.arguments).out }
  | "true" => {}
  | "false" => { status := 1 }
  | "yes" => yes call
  | "uname" => { out := bytes "Linux\n" }
  | "pwd" => { out := bytes (FileTree.pathText call.directory ++ "\n") }
  | "ls" => ls call
  | "env" | "printenv" => printenv call
  | "seq" => seq call
  | "head" => head call
  | "tail" => tail call
  | "tr" => tr call
  | "wc" => wc call
  | "basename" => basename call
  | "dirname" => dirname call
  | "mkdir" => mkdir call
  | "touch" => touch call
  | "rm" => rm call
  | "test" => test call false
  | "[" => test call true
  | _ => fault call 127 "not found"

end Utility

end ThrowawayServer
