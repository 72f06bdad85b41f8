import ThrowawayServer.CommandLine.Arguments
import ThrowawayServer.CommandLine.Reader

/-!
# Reading the command line

The commands and their options, and what each of them is taken for.
-/

set_option autoImplicit false

namespace ThrowawayServer

/-- An option for a text that may be given once. -/
def OptionSpec.text {α : Type} (spellings : List String) (get : α → Option String)
    (put : String → α → α) : OptionSpec α where
  spellings
  isTaken := fun given => (get given).isSome
  put := fun value given => .ok (put value given)

/-- An option for a value that may be given once and is read from its text. -/
def OptionSpec.value {α β ε : Type} (spellings : List String) (read : String → Except ε β)
    (message : ε → String) (get : α → Option β) (put : β → α → α) : OptionSpec α where
  spellings
  isTaken := fun given => (get given).isSome
  put := fun text given => ((read text).mapError message).map fun value => put value given

def readVersionArgument (text : String) : Except String Version :=
  (Version.parse text).mapError VersionError.message

namespace ResolveArguments

/-- What was given, of which the version may be missing. -/
structure Draft where
  version : Option Version := none
  platform : PlatformOverride := {}
  baseUrl : Option String := none
  json : Bool := false
  deriving DecidableEq, Repr

def spec : CommandSpec Draft where
  switches := [("--json", fun draft => { draft with json := true })]
  options :=
    [.text ["--os"] (·.platform.os) fun value draft =>
        { draft with platform := { draft.platform with os := some value } },
      .text ["--arch"] (·.platform.arch) fun value draft =>
        { draft with platform := { draft.platform with arch := some value } },
      .text ["--bits"] (·.platform.bits) fun value draft =>
        { draft with platform := { draft.platform with bits := some value } },
      .text ["--os-version"] (·.platform.osVersion) fun value draft =>
        { draft with platform := { draft.platform with osVersion := some value } },
      .text ["--base-url"] (·.baseUrl) fun value draft => { draft with baseUrl := some value }]
  positionals :=
    [{ name := "version"
       put := fun text draft => do
        return { draft with version := some (← readVersionArgument text) } }]

def parse (arguments : List String) : Except Unread ResolveArguments := do
  let (draft, _) ← spec.read arguments {}
  match draft.version with
  | none => throw (.usage .misused)
  | some version =>
    return { version, platform := draft.platform, baseUrl := draft.baseUrl, json := draft.json }

end ResolveArguments

namespace RunArguments

/-- The wording for a text that gives no variable a value. -/
def badVariable (text : String) : String :=
  s!"Invalid environment variable '{text}'. Expected 'KEY=VALUE'"

/-- Reads a name and a value with the first equals sign between them. -/
def readVariable (text : String) : Except String (String × String) :=
  match Text.splitFirst '=' text.toList with
  | some (name, value) =>
    if name.isEmpty then .error (badVariable text) else .ok (String.ofList name, String.ofList value)
  | none => .error (badVariable text)

def spec : CommandSpec RunArguments where
  options :=
    [.text ["-c", "--config"] (·.config) fun value given => { given with config := some value },
      .value ["--command"] Program.parse Program.unknownMessage (·.program)
        fun program given => { given with program := some program },
      .value ["-p", "--port"] (fun text => Text.readUInt16 text.toList) Text.NumeralError.message
        (·.port) fun port given => { given with port := some port },
      .text ["--db-path"] (·.dbPath) fun value given => { given with dbPath := some value },
      .text ["--artifact-dir"] (·.artifactDir) fun value given =>
        { given with artifactDir := some value },
      { spellings := ["-e", "--env"]
        isTaken := fun _ => false
        put := fun text given => do
          return { given with env := given.env ++ [← readVariable text] } },
      .value ["--startup-timeout-ms"] (fun text => Text.readUInt64 text.toList)
        Text.NumeralError.message (·.startupTimeoutMs)
        fun time given => { given with startupTimeoutMs := some time }]
  positionals :=
    [{ name := "version"
       put := fun text given => do
        return { given with version := some (← readVersionArgument text) } }]

def parse (arguments : List String) : Except Unread RunArguments :=
  (spec.read arguments {}).map (·.1)

end RunArguments

namespace CommandRequest

/-- What can be given to ask for the platform. -/
def detectSpec : CommandSpec Bool where
  switches := [("--json", fun _ => true)]

/-- What can be given to ask for ranges. -/
def rangesSpec : CommandSpec (List Version) where
  positionals :=
    [{ name := "versions"
       repeats := true
       put := fun text versions => do return versions ++ [← readVersionArgument text] }]

def names : List String := ["resolve", "detect", "run", "ranges"]

def parse (command : ReachedCommand) : Except Unread CommandRequest :=
  match command.name with
  | "resolve" => (ResolveArguments.parse command.arguments).map .resolve
  | "detect" => (detectSpec.read command.arguments false).map fun (json, _) => .detect json
  | "run" => (RunArguments.parse command.arguments).map .run
  | "ranges" => (rangesSpec.read command.arguments []).map fun (versions, _) => .ranges versions
  | _ => .error (.usage .misused)

end CommandRequest

namespace CommandLine

/-- What can be given before a command. -/
def spec : CommandSpec (Option String) where
  options := [.text ["-l", "--log-level"] id fun value _ => some value]
  commands := CommandRequest.names

/-- Reads a command line without the name of the program. -/
def parse (arguments : List String) : Except Unread CommandLine := do
  match ← spec.read arguments none with
  | (_, none) => throw (.usage .misused)
  | (logLevel, some command) =>
    return { logLevel := logLevel.getD "info", request := ← CommandRequest.parse command }

end CommandLine

end ThrowawayServer
