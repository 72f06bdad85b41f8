import ThrowawayServer.Catalog.ArchiveStore
import ThrowawayServer.Catalog.Resolver
import ThrowawayServer.Net.IpAddress
import ThrowawayServer.Platform.Override
import ThrowawayServer.Process.OsError
import ThrowawayServer.Text.Blank
import ThrowawayServer.Yaml.Fault

/-!
# Run configurations

What one run of a program needs to know. Everything but the version has a default. `validate` says
which configurations can be run; `arguments` is the command line that a program is given.
-/

set_option autoImplicit false

namespace ThrowawayServer

/-- Names with values, of which each name has one. -/
abbrev Variables := List (String × String)

/-- Variables with one more; a name that is there already takes the new value. -/
def Variables.put (bindings : Variables) (name value : String) : Variables :=
  bindings.filter (·.1 ≠ name) ++ [(name, value)]

/-- Variables with others put on top in order. -/
def Variables.putAll (bindings others : Variables) : Variables :=
  others.foldl (fun bindings (name, value) => bindings.put name value) bindings

structure RunConfig where
  version : Version
  /-- Replaces parts of the platform that the host was found to have. -/
  platform : Option PlatformOverride := none
  program : Program := .mongod
  bindIp : IpAddress := .v4 .localhost
  port : UInt16 := 27017
  /-- The directory for the data of a server. -/
  dbPath : Option String := none
  /-- Stand after the arguments that the other settings lead to. -/
  extraArgs : List String := []
  env : Variables := []
  startupTimeoutMs : UInt64 := 20000
  /-- How long a step of the shutdown is waited for. -/
  stepTimeoutMs : UInt64 := 5000
  baseUrl : String := defaultBaseUrl
  /-- The root of the extracted archives. -/
  artifactDir : Option String := none
  deriving DecidableEq, Repr

/-- Why a configuration cannot be run. -/
inductive InvalidConfig where
  | zeroPort
  | zeroStartupTimeout
  | zeroStepTimeout
  | blankBaseUrl
  /-- Neither a version nor a file is given. -/
  | nothingGiven
  deriving DecidableEq, Repr

/-- The wording for a configuration that cannot be run. -/
def InvalidConfig.message : InvalidConfig → String
  | .zeroPort => "'port' must not be 0"
  | .zeroStartupTimeout => "'startup_timeout_ms' must be greater than 0"
  | .zeroStepTimeout => "'shutdown_step_timeout_ms' must be greater than 0"
  | .blankBaseUrl => "'download_base_url' must not be empty"
  | .nothingGiven => "either a version or --config is required"

/-- Why there is no configuration. -/
inductive ConfigError where
  | unreadable (path : String) (error : OsError)
  | unparsed (fault : Yaml.Fault)
  | invalid (cause : InvalidConfig)
  | platform (error : PlatformError)
  deriving DecidableEq, Repr

/-- The wording for a missing configuration. -/
def ConfigError.message : ConfigError → String
  | .unreadable path error => s!"Failed to read config file '{path}': {error.message}"
  | .unparsed fault => s!"Failed to parse config file: {fault.message}"
  | .invalid cause => s!"Validation error: {cause.message}"
  | .platform error => error.message

namespace RunConfig

/-- The first reason not to run a configuration, its platform aside. -/
def invalid? (config : RunConfig) : Option InvalidConfig :=
  if config.port = 0 then some .zeroPort
  else if config.startupTimeoutMs = 0 then some .zeroStartupTimeout
  else if config.stepTimeoutMs = 0 then some .zeroStepTimeout
  else if (Text.trim config.baseUrl.toList).isEmpty then some .blankBaseUrl
  else none

/-- Whether a configuration can be run. -/
def validate (config : RunConfig) : Except ConfigError Unit :=
  match config.invalid?, config.platform with
  | some cause, _ => .error (.invalid cause)
  | none, some o => o.validate.mapError .platform
  | none, none => .ok ()

/-- The configuration if it can be run. -/
def validated (config : RunConfig) : Except ConfigError RunConfig :=
  config.validate.map fun _ => config

/-- The platform of a host with the configured parts replaced. -/
def targetPlatform (config : RunConfig) (host : Platform) : Except ConfigError Platform :=
  match config.platform with
  | some o => if o.isEmpty then .ok host else (o.apply host).mapError .platform
  | none => .ok host

/-- The address that a server listens at and that shutdown commands are sent to. -/
def address (config : RunConfig) : SocketAddress :=
  { ip := config.bindIp, port := config.port }

/-- Where a server listens, or the server that a tool connects to. -/
def addressArguments (config : RunConfig) : List String :=
  let port := toString config.port.toNat
  let ip := config.bindIp.toText
  if config.program.isServer then ["--port", port, "--bind_ip", ip]
  else ["--host", ip, "--port", port]

/-- The data directory, which only one of the programs has. -/
def dataArguments (config : RunConfig) : List String :=
  match config.program, config.dbPath with
  | .mongod, some path => ["--dbpath", path]
  | _, _ => []

/-- The command line of the configured program. -/
def arguments (config : RunConfig) : List String :=
  config.addressArguments ++ config.dataArguments ++ config.extraArgs

/-- The name that a run goes by. -/
def label (config : RunConfig) : String :=
  s!"{config.program.baseName}:{config.port.toNat}"

/-- The root of the extracted archives: from the command line, the environment, the configuration, or
below the home directory. -/
def archiveRoot (config : RunConfig) (flag fromEnvironment home : Option String) : Option String :=
  flag <|> (fromEnvironment.filter fun dir => !dir.isEmpty) <|> config.artifactDir <|>
    ArchiveStore.defaultRoot home fromEnvironment

end RunConfig

end ThrowawayServer
