import ThrowawayServer.CommandLine.Report
import ThrowawayServer.Supervisor.Lifecycle

/-!
# Carrying out commands

What a command finds out before anything is run is a function of its `Surroundings`. Running a program
then is a function of what a `ProcessHost` answers.
-/

set_option autoImplicit false

namespace ThrowawayServer

/-- What commands can learn about the system that they run on. -/
structure Surroundings where
  /-- What was detected about the host. -/
  host : Except PlatformError Platform
  readFile : String → Except OsError (List UInt8)
  isFile : String → Bool
  /-- The root of the extracted archives, as the environment names it. -/
  archiveRoot : Option String := none
  home : Option String := none
  temporaryDir : String := "/tmp"

/-- Why a command fails. -/
inductive CommandFailure where
  | config (error : ConfigError)
  | platform (error : PlatformError)
  | resolve (error : ResolveError)
  | noArchiveRoot
  | store (error : StoreError)
  /-- The data directory cannot be made. -/
  | dataDir (error : OsError)
  | supervise (error : SuperviseError)
  deriving DecidableEq, Repr

/-- The wording for a command that fails. -/
def CommandFailure.message : CommandFailure → String
  | .config error => error.message
  | .platform error => error.message
  | .resolve error => error.message
  | .noArchiveRoot => "No artifact directory, set EMBEDMONGO_ARTIFACT_DIR or --artifact-dir"
  | .store error => error.message
  | .dataDir error => error.message
  | .supervise error => error.message

/-- A message as it stands in the log, where the lines after the first are indented. -/
def logText (message : String) : String :=
  let indented := Text.replaceAll ['\n'] "\n    ".toList message.toList
  String.ofList (Text.trimEndBy Text.isBlank indented)

/-! ## Commands that only print -/

namespace ResolveArguments

/-- The platform that archives are resolved for where nothing is known about the host. -/
def usualHost : Platform := { os := .linux, arch := .x86, bits := .b64 }

def resolver (arguments : ResolveArguments) : Resolver :=
  { baseUrl := arguments.baseUrl.getD defaultBaseUrl }

/-- The archive that the arguments ask for on a host. -/
def resolution (arguments : ResolveArguments) (host : Except PlatformError Platform) :
    Except CommandFailure Resolution := do
  let host := host.toOption.getD usualHost
  let platform ← (arguments.platform.apply host).mapError .platform
  let distribution : Distribution := { version := arguments.version, platform }
  let artifact ← (arguments.resolver.resolve distribution).mapError .resolve
  return { distribution, artifact }

end ResolveArguments

/-! ## Running programs -/

/-- A run of a program that has everything it needs. -/
structure RunPlan where
  config : RunConfig
  artifact : Artifact
  executable : String
  /-- A directory to be made for the data, if none was given. -/
  dataDir : Option String
  deriving DecidableEq, Repr

namespace RunArguments

/-- The archive of a configuration on a host. -/
def artifact (config : RunConfig) (host : Except PlatformError Platform) :
    Except CommandFailure Artifact := do
  let host ← host.mapError .platform
  let platform ← (config.targetPlatform host).mapError .config
  let resolver : Resolver := { baseUrl := config.baseUrl }
  (resolver.resolve { version := config.version, platform }).mapError .resolve

/-- Where data goes that nobody has named a place for. -/
def usualDataDir (config : RunConfig) (temporaryDir : String) : String :=
  FilePath.join temporaryDir s!"embedmongo-{config.port.toNat}"

/-- The directory that is made for the data of a run, if one is needed. -/
def dataDir? (config : RunConfig) (temporaryDir : String) : Option String :=
  if config.program = .mongod && config.dbPath.isNone then some (usualDataDir config temporaryDir)
  else none

/-- Everything that a run needs. -/
def plan (arguments : RunArguments) (surroundings : Surroundings) :
    Except CommandFailure RunPlan := do
  let config ← (arguments.runConfig surroundings.readFile).mapError .config
  let artifact ← artifact config surroundings.host
  match arguments.archiveRoot config surroundings.archiveRoot surroundings.home with
  | none => throw .noArchiveRoot
  | some root =>
    let store : ArchiveStore := { root }
    let found := store.executablePath surroundings.isFile artifact config.program
    let executable ← found.mapError .store
    let dataDir := dataDir? config surroundings.temporaryDir
    return { config := { config with dbPath := dataDir <|> config.dbPath }, artifact, executable, dataDir }

end RunArguments

inductive RunEnd where
  | failed (failure : CommandFailure)
  | exited (code : Option Int)
  /-- It was not watched any longer. -/
  | unwatched
  deriving DecidableEq, Repr

/-- What there is to tell about a run. -/
structure RunReport where
  /-- What was logged when the program was ready. -/
  readyLine : Option String := none
  ending : RunEnd
  deriving DecidableEq, Repr

namespace RunReport

/-- What is logged at the end, if the program was stopped. -/
def exitLine (report : RunReport) : Option String :=
  match report.ending with
  | .exited code => some s!"embedmongo exiting (exit code {exitCodeText code})"
  | _ => none

end RunReport

namespace RunPlan

variable {σ : Type}

/-- How the process of a run is started and stopped. -/
def settings (plan : RunPlan) : SupervisorSettings :=
  plan.config.supervisorSettings plan.executable

/-- What is logged when the program is ready. -/
def readyLine (plan : RunPlan) (process : RunningProcess) : String :=
  let program := plan.config.program.baseName
  let version := plan.config.version.canonical
  s!"{program} {version} is ready (pid {process.pid.toText})"

/-- The time between two looks at a server, in milliseconds. -/
def watchInterval : Nat := 1000

/-- Watches a server until it is to be stopped or has died, and whether that came. `rounds` bounds the
number of looks. -/
def watch (host : ProcessHost σ) (isInterrupted : σ → Bool) (supervisor : Supervisor) :
    Nat → σ → Bool × σ
  | 0, state => (false, state)
  | rounds + 1, state =>
    if isInterrupted state then (true, state)
    else
      let (alive, state) := supervisor.checkAlive host (host.sleep watchInterval state)
      if alive then watch host isInterrupted supervisor rounds state else (true, state)

/-- Runs a program: a server until it is to be stopped or has died, a tool to its end. -/
def supervise (plan : RunPlan) (host : ProcessHost σ) (isInterrupted : σ → Bool) (rounds : Nat)
    (state : σ) : RunReport × σ :=
  let supervisor : Supervisor := { settings := plan.settings }
  match supervisor.start host state with
  | (.error error, _, state) => ({ ending := .failed (.supervise error) }, state)
  | (.ok process, supervisor, state) =>
    let readyLine := some (plan.readyLine process)
    let watched := if plan.config.program.isServer
      then watch host isInterrupted supervisor rounds state else (true, state)
    match watched with
    | (false, state) => ({ readyLine, ending := .unwatched }, state)
    | (true, state) =>
      match supervisor.stop host state with
      | (.ok code, _, state) => ({ readyLine, ending := .exited code }, state)
      | (.error error, _, state) => ({ readyLine, ending := .failed (.supervise error) }, state)

end RunPlan

/-! ## All commands -/

/-- What a command comes to before a program is run. -/
inductive CommandAnswer where
  | lines (lines : List String)
  | run (plan : RunPlan)
  deriving DecidableEq, Repr

/-- Carries out a command as far as that can be done without running a program. -/
def CommandRequest.answer (surroundings : Surroundings) :
    CommandRequest → Except CommandFailure CommandAnswer
  | .resolve arguments =>
    (arguments.resolution surroundings.host).map fun resolution =>
      .lines (resolution.lines arguments.json)
  | .detect json =>
    (surroundings.host.mapError .platform).map fun platform => .lines (platform.lines json)
  | .ranges versions => .ok (.lines (rangeLines versions))
  | .run arguments => (arguments.plan surroundings).map .run

end ThrowawayServer
