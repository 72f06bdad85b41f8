import ThrowawayServer.Proofs.CommandLine.GivenVariables
import ThrowawayServer.Proofs.Run.Validity

/-!
# From a file and a command line to a configuration

A run starts from its file, or from the defaults for a version if it has none. What the command line
gives replaces what is there, its variables are put on top in the order in which they were given, and
nothing else is touched. The outcome is checked once more, since a file that could be run may be
spoiled by what is given with it.
-/

set_option autoImplicit false

namespace ThrowawayServer.RunArguments

variable {arguments : RunArguments} {readFile : String → Except OsError (List UInt8)}
  {base config : RunConfig}

/-- What the arguments start from. -/
inductive Loads (arguments : RunArguments) (readFile : String → Except OsError (List UInt8)) :
    RunConfig → Prop where
  | file {path : String} {base : RunConfig} (given : arguments.config = some path)
      (read : RunConfig.ofFile path (readFile path) = .ok base) : Loads arguments readFile base
  | defaults {version : Version} (fileless : arguments.config = none)
      (given : arguments.version = some version) : Loads arguments readFile { version }

/-- A configuration is another one with what was given in place of what was there. -/
structure LaidOver (arguments : RunArguments) (base config : RunConfig) : Prop where
  version : config.version = arguments.version.getD base.version
  program : config.program = arguments.program.getD base.program
  port : config.port = arguments.port.getD base.port
  db_path : config.dbPath = arguments.dbPath.or base.dbPath
  startup_timeout : config.startupTimeoutMs = arguments.startupTimeoutMs.getD base.startupTimeoutMs
  env : ∀ name, config.env.lookup name =
    (arguments.env.reverse.lookup name).or (base.env.lookup name)
  env_distinct : config.env.Distinct
  platform : config.platform = base.platform
  bind_ip : config.bindIp = base.bindIp
  extra_args : config.extraArgs = base.extraArgs
  step_timeout : config.stepTimeoutMs = base.stepTimeoutMs
  base_url : config.baseUrl = base.baseUrl
  artifact_dir : config.artifactDir = base.artifactDir

theorem baseConfig_eq_ok_iff : arguments.baseConfig readFile = .ok base ↔
    arguments.Loads readFile base := by
  constructor
  · intro loaded
    cases file : arguments.config with
    | some path =>
        rw [baseConfig, file] at loaded
        exact .file file loaded
    | none =>
        cases version : arguments.version with
        | some version' =>
            rw [baseConfig, file, version] at loaded
            cases loaded
            exact .defaults file version
        | none =>
            rw [baseConfig, file, version] at loaded
            cases loaded
  · intro loads
    cases loads with
    | file given read => rw [baseConfig, given]; exact read
    | defaults fileless given => rw [baseConfig, fileless, given]

theorem Loads.env_distinct (loads : arguments.Loads readFile base) : base.env.Distinct := by
  cases loads with
  | file given read =>
      obtain ⟨text, parsed⟩ := RunConfig.parse_of_ofFile read
      exact RunConfig.distinct_of_parse parsed
  | defaults => exact Variables.distinct_nil

theorem overlay_laidOver (distinct : base.env.Distinct) :
    arguments.LaidOver base (arguments.overlay base) := by
  constructor
  case env => exact Variables.lookup_putAll base.env arguments.env
  case env_distinct => exact distinct.putAll arguments.env
  case db_path => exact Option.orElse_eq_or
  all_goals rfl

theorem runConfig_eq_ok_iff : arguments.runConfig readFile = .ok config ↔
    ∃ base, arguments.Loads readFile base ∧ config = arguments.overlay base ∧
      config.validate = .ok () := by
  constructor
  · intro accepted
    obtain ⟨base, loaded, accepted⟩ := exists_of_bind_ok accepted
    obtain ⟨runnable, rfl⟩ := RunConfig.validated_eq_ok_iff.mp accepted
    exact ⟨base, baseConfig_eq_ok_iff.mp loaded, rfl, RunConfig.validate_eq_ok_iff.mpr runnable⟩
  · rintro ⟨base, loads, rfl, valid⟩
    rw [runConfig, baseConfig_eq_ok_iff.mpr loads]
    exact RunConfig.validated_eq_ok_iff.mpr ⟨RunConfig.validate_eq_ok_iff.mp valid, rfl⟩

/-- How configurations come about when files are read by `readFile`. -/
structure ConfigLayers (readFile : String → Except OsError (List UInt8)) : Prop where
  ok_iff : ∀ (arguments : RunArguments) (config : RunConfig),
    arguments.runConfig readFile = .ok config ↔
      ∃ base, arguments.Loads readFile base ∧ config = arguments.overlay base ∧
        config.validate = .ok ()
  laid_over : ∀ (arguments : RunArguments) (base : RunConfig), arguments.Loads readFile base →
    arguments.LaidOver base (arguments.overlay base)
  bindings : ∀ (line : List String) (arguments : RunArguments),
    RunArguments.parse line = .ok arguments → GiveBindings (variableTexts line) arguments.env
  binding : ∀ text name value, readVariable text = .ok (name, value) ↔
    name ≠ "" ∧ '=' ∉ name.toList ∧ text = name ++ "=" ++ value
  runnable : ∀ (arguments : RunArguments) (config : RunConfig),
    arguments.runConfig readFile = .ok config → config.Runnable
  runnable_from_file : ∀ (path : String) (content : Except OsError (List UInt8))
    (config : RunConfig), RunConfig.ofFile path content = .ok config → config.Runnable
  runnable_from_text : ∀ (text : String) (config : RunConfig),
    RunConfig.parse text = .ok config → config.Runnable

theorem config_layers (readFile : String → Except OsError (List UInt8)) : ConfigLayers readFile := by
  have runnable_from_text : ∀ (text : String) (config : RunConfig),
      RunConfig.parse text = .ok config → config.Runnable :=
    fun _ _ => RunConfig.runnable_of_parse
  constructor
  case ok_iff => exact fun _ _ => runConfig_eq_ok_iff
  case laid_over => exact fun _ _ loads => overlay_laidOver loads.env_distinct
  case bindings => exact fun _ _ => env_of_parse
  case binding => exact fun _ _ _ => readVariable_eq_ok_iff
  case runnable =>
    intro arguments config accepted
    obtain ⟨base, -, -, valid⟩ := runConfig_eq_ok_iff.mp accepted
    exact RunConfig.validate_eq_ok_iff.mp valid
  case runnable_from_file =>
    intro path content config loaded
    obtain ⟨text, parsed⟩ := RunConfig.parse_of_ofFile loaded
    exact runnable_from_text text config parsed
  case runnable_from_text => exact runnable_from_text

end ThrowawayServer.RunArguments
