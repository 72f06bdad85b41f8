import ThrowawayServer.Run.ConfigFile

/-!
# What can be asked for on the command line

The commands with what was given for each, before anything is looked up or run.
-/

set_option autoImplicit false

namespace ThrowawayServer

/-- Asks for the archive of a version. -/
structure ResolveArguments where
  version : Version
  /-- Replaces parts of the platform that the host was found to have. -/
  platform : PlatformOverride := {}
  baseUrl : Option String := none
  json : Bool := false
  deriving DecidableEq, Repr

/-- Asks to run a program. What is given counts more than a configuration file. -/
structure RunArguments where
  version : Option Version := none
  /-- The path of a configuration file. -/
  config : Option String := none
  program : Option Program := none
  port : Option UInt16 := none
  dbPath : Option String := none
  artifactDir : Option String := none
  /-- Variables in the order in which they were given. -/
  env : List (String × String) := []
  startupTimeoutMs : Option UInt64 := none
  deriving DecidableEq, Repr

inductive CommandRequest where
  | resolve (arguments : ResolveArguments)
  /-- Asks for the platform of the host. -/
  | detect (json : Bool)
  | run (arguments : RunArguments)
  /-- Asks for the ranges that versions make up. -/
  | ranges (versions : List Version)
  deriving DecidableEq, Repr

structure CommandLine where
  logLevel : String := "info"
  request : CommandRequest
  deriving DecidableEq, Repr

namespace RunArguments

/-- The configuration that the arguments start from. -/
def baseConfig (arguments : RunArguments) (readFile : String → Except OsError (List UInt8)) :
    Except ConfigError RunConfig :=
  match arguments.config, arguments.version with
  | some path, _ => RunConfig.ofFile path (readFile path)
  | none, some version => .ok { version }
  | none, none => .error (.invalid .nothingGiven)

/-- A configuration with everything replaced that was given. -/
def overlay (arguments : RunArguments) (config : RunConfig) : RunConfig :=
  { config with
    version := arguments.version.getD config.version
    program := arguments.program.getD config.program
    port := arguments.port.getD config.port
    dbPath := arguments.dbPath <|> config.dbPath
    startupTimeoutMs := arguments.startupTimeoutMs.getD config.startupTimeoutMs
    env := config.env.putAll arguments.env }

/-- The configuration that the arguments ask for, if it can be run. -/
def runConfig (arguments : RunArguments) (readFile : String → Except OsError (List UInt8)) :
    Except ConfigError RunConfig := do
  let config ← arguments.baseConfig readFile
  (arguments.overlay config).validated

/-- The root of the extracted archives. -/
def archiveRoot (arguments : RunArguments) (config : RunConfig)
    (fromEnvironment home : Option String) : Option String :=
  config.archiveRoot arguments.artifactDir fromEnvironment home

end RunArguments

end ThrowawayServer
