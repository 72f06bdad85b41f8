import ThrowawayServer.Proofs.Catalog.ExtractedFolder
import ThrowawayServer.Proofs.CommandLine.PrintedArchive
import ThrowawayServer.Proofs.Platform.ReleaseTag

/-!
# The archive of a run is the one that is printed

`resolve` takes its wishes from the command line, `run` from a configuration. If they are the same
wishes, both commands come to the same archive on a host, or fail for the same cause, and `run` looks
for the server exactly where the lines that `resolve` prints say that it is in the archive.
-/

set_option autoImplicit false

namespace ThrowawayServer

/-- The configuration asks for the same archive as the arguments. A configuration without an override
stands for one in which nothing is overridden, arguments without a base URL for the usual one. -/
structure RunConfig.AsksFor (config : RunConfig) (asked : ResolveArguments) : Prop where
  version : config.version = asked.version
  platform : config.platform.getD {} = asked.platform
  baseUrl : config.baseUrl = asked.baseUrl.getD defaultBaseUrl

/-- The archive of a run beside what is printed: the same one, or the same error. -/
inductive SameAnswer : Except CommandFailure Artifact → Except CommandFailure Resolution → Prop where
  | found (resolution : Resolution) : SameAnswer (.ok resolution.artifact) (.ok resolution)
  | badPlatform (error : PlatformError) :
      SameAnswer (.error (.config (.platform error))) (.error (.platform error))
  | unresolved (error : ResolveError) :
      SameAnswer (.error (.resolve error)) (.error (.resolve error))

/-- What is read from printed lines is true of an archive, and a store looks for the server at the path
that they name. -/
structure Resolution.Describes (shown : Resolution) (path : String) (json : Bool)
    (artifact : Artifact) : Prop where
  archive : shown.artifact.archive = artifact.archive
  url : shown.artifact.url = artifact.url
  whole : json = true → shown.artifact = artifact
  place : ∀ root, (ArchiveStore.mk root).expectedPath artifact .mongod = FilePath.join root path

/-- The archive of a run beside what is printed: lines that show this archive, of which every reading
is right, or the same error. -/
inductive PrintedAlike (json : Bool) :
    Except CommandFailure Artifact → Except CommandFailure CommandAnswer → Prop where
  | shown {resolution : Resolution} {path : String} {lines : List String}
      (shows_it : resolution.ShownBy path json lines)
      (readings : ∀ (shown : Resolution) (place : String), shown.ShownBy place json lines →
        shown.Describes place json resolution.artifact) :
      PrintedAlike json (.ok resolution.artifact) (.ok (.lines lines))
  | failed {cause failure : CommandFailure} (same : cause.message = failure.message) :
      PrintedAlike json (.error cause) (.error failure)

/-- A run starts the executable at a path if it is there, and else names it and where its archive is
fetched from. -/
inductive StartsAt (surroundings : Surroundings) (artifact : Artifact) (path : String) :
    Except CommandFailure CommandAnswer → Prop where
  | present {plan : RunPlan} (isFile : surroundings.isFile path = true)
      (same : plan.artifact = artifact) (executable : plan.executable = path) :
      StartsAt surroundings artifact path (.ok (.run plan))
  | missing (noFile : surroundings.isFile path = false) :
      StartsAt surroundings artifact path (.error (.store (.notExtracted path artifact.url)))

/-!
## The same answer
-/

theorem SameAnswer.message_eq {run : Except CommandFailure Artifact}
    {printed : Except CommandFailure Resolution} (same : SameAnswer run printed)
    {failure : CommandFailure} (failed : printed = .error failure) :
    ∃ cause, run = .error cause ∧ cause.message = failure.message := by
  cases same with
  | found resolution => cases failed
  | badPlatform error =>
      cases failed
      exact ⟨_, rfl, rfl⟩
  | unresolved error =>
      cases failed
      exact ⟨_, rfl, rfl⟩

theorem RunArguments.artifact_eq (config : RunConfig) (host : Platform) :
    artifact config (.ok host) =
      (((config.platform.getD {}).apply host).mapError (CommandFailure.config ∘ .platform)).bind
        fun platform =>
          (({ baseUrl := config.baseUrl } : Resolver).resolve
            { version := config.version, platform }).mapError .resolve := by
  unfold artifact
  simp only [Except.mapError, bind, Except.bind]
  rw [RunConfig.targetPlatform_eq_apply]
  cases (config.platform.getD {}).apply host with
  | error error => rfl
  | ok platform => rfl

theorem ResolveArguments.resolution_eq (asked : ResolveArguments) (host : Platform) :
    asked.resolution (.ok host) =
      ((asked.platform.apply host).mapError CommandFailure.platform).bind fun platform =>
        ((asked.resolver.resolve { version := asked.version, platform }).mapError .resolve).map
          fun artifact => ⟨{ version := asked.version, platform }, artifact⟩ := by
  unfold resolution
  simp only [Except.toOption, Option.getD_some]
  cases asked.platform.apply host with
  | error error => rfl
  | ok platform =>
      simp only [Except.mapError, bind, Except.bind]
      cases asked.resolver.resolve { version := asked.version, platform } with
      | error error => rfl
      | ok artifact => rfl

theorem RunConfig.AsksFor.sameAnswer {config : RunConfig} {asked : ResolveArguments}
    (same : config.AsksFor asked) (host : Platform) :
    SameAnswer (RunArguments.artifact config (.ok host)) (asked.resolution (.ok host)) := by
  rw [RunArguments.artifact_eq, asked.resolution_eq, same.platform, same.version, same.baseUrl,
    ResolveArguments.resolver]
  cases asked.platform.apply host with
  | error error => exact .badPlatform error
  | ok platform =>
      simp only [Except.mapError, Except.bind]
      cases ({ baseUrl := asked.baseUrl.getD defaultBaseUrl } : Resolver).resolve
        { version := asked.version, platform } with
      | error error => exact .unresolved error
      | ok artifact => exact .found ⟨_, artifact⟩

/-!
## The same place
-/

theorem ResolveArguments.plainlyNamed {asked : ResolveArguments} {host : Platform} {input : String}
    (parsed : Version.parse input = .ok asked.version) {resolution : Resolution}
    (resolved : asked.resolution (.ok host) = .ok resolution) :
    ∃ os, resolution.artifact.PlainlyNamed os := by
  obtain ⟨platform, -, resolved⟩ := exists_of_bind_ok resolved
  obtain ⟨artifact, found, resolved⟩ := exists_of_bind_ok resolved
  cases resolved
  exact ⟨platform.os, Resolver.plainlyNamed_of_resolve rfl parsed (ok_of_mapError found)⟩

theorem Resolution.expectedPath_eq {resolution : Resolution} {os : Os}
    (plain : resolution.artifact.PlainlyNamed os) (root : String) :
    (ArchiveStore.mk root).expectedPath resolution.artifact .mongod =
      FilePath.join root resolution.executable := by
  -- The printed name is one text with slashes in it; a store joins its three parts one by one.
  have entry : resolution.executable =
      resolution.artifact.stem ++ ("/" ++ "bin" ++ "/" ++ Program.mongod.executableName os) := by
    rw [executable, Artifact.executableEntry, plain.bin_dir, plain.suffix, ← String.toList_inj]
    simp [Program.executableName, ToString.toString]
  rw [ArchiveStore.expectedPath_eq_append plain, entry, FilePath.join_append _ plain.stem.nonempty]
  simp only [String.append_assoc]

theorem CommandRequest.answer_resolve_error_iff {asked : ResolveArguments}
    {surroundings : Surroundings} {failure : CommandFailure} :
    CommandRequest.answer surroundings (.resolve asked) = .error failure ↔
      asked.resolution surroundings.host = .error failure := by
  rw [answer]
  cases asked.resolution surroundings.host <;> simp [Except.map]

theorem RunConfig.AsksFor.printedAlike {config : RunConfig} {asked : ResolveArguments}
    {input : String} {host : Platform} {surroundings : Surroundings} (same : config.AsksFor asked)
    (parsed : Version.parse input = .ok asked.version) (detected : surroundings.host = .ok host) :
    PrintedAlike asked.json (RunArguments.artifact config (.ok host))
      (CommandRequest.answer surroundings (.resolve asked)) := by
  have answer := same.sameAnswer host
  rw [CommandRequest.answer, detected]
  cases resolved : asked.resolution (.ok host) with
  | error failure =>
      obtain ⟨cause, artifact_eq, message_eq⟩ := answer.message_eq resolved
      rw [artifact_eq]
      exact .failed message_eq
  | ok resolution =>
      rw [resolved] at answer
      generalize RunArguments.artifact config (.ok host) = found at answer ⊢
      cases answer
      obtain ⟨os, plain⟩ := ResolveArguments.plainlyNamed parsed resolved
      have printed := resolution.lines_shownBy asked.json
      refine .shown printed fun shown place read => ?_
      obtain ⟨archive, url, rfl, whole⟩ := printed.read_alike read rfl
      exact ⟨archive, url, whole, resolution.expectedPath_eq plain⟩

namespace RunArguments

variable {run : RunArguments} {surroundings : Surroundings} {config : RunConfig}

theorem answer_of_artifact_error
    (accepted : run.runConfig surroundings.readFile = .ok config) {failure : CommandFailure}
    (failed : artifact config surroundings.host = .error failure) :
    CommandRequest.answer surroundings (.run run) = .error failure := by
  rw [CommandRequest.answer, plan, accepted]
  simp only [Except.mapError, Except.bind, Except.map, bind, failed]

theorem answer_of_artifact_ok
    (accepted : run.runConfig surroundings.readFile = .ok config) {found : Artifact}
    (resolved : artifact config surroundings.host = .ok found) {root : String}
    (rooted : run.archiveRoot config surroundings.archiveRoot surroundings.home = some root) :
    StartsAt surroundings found ((ArchiveStore.mk root).expectedPath found config.program)
      (CommandRequest.answer surroundings (.run run)) := by
  rw [CommandRequest.answer, plan, accepted]
  simp only [Except.mapError, Except.bind, bind, resolved, rooted, ArchiveStore.executablePath]
  cases present : surroundings.isFile ((ArchiveStore.mk root).expectedPath found config.program) with
  | true =>
      rw [if_pos rfl]
      exact .present present rfl rfl
  | false =>
      rw [if_neg Bool.false_ne_true]
      exact .missing present

end RunArguments

/-- On a host, a run with a configuration finds what is printed for the arguments. -/
structure RunsWhatIsPrinted (host : Platform) (config : RunConfig) (asked : ResolveArguments) :
    Prop where
  answer : SameAnswer (RunArguments.artifact config (.ok host)) (asked.resolution (.ok host))
  path : ∀ resolution, asked.resolution (.ok host) = .ok resolution → ∀ root,
    (ArchiveStore.mk root).expectedPath resolution.artifact .mongod =
      FilePath.join root resolution.executable
  printed : ∀ surroundings : Surroundings, surroundings.host = .ok host →
    PrintedAlike asked.json (RunArguments.artifact config (.ok host))
      (CommandRequest.answer surroundings (.resolve asked))
  planned : ∀ (run : RunArguments) (surroundings : Surroundings) (lines : List String)
    (shown : Resolution) (path root : String),
      run.runConfig surroundings.readFile = .ok config → surroundings.host = .ok host →
        CommandRequest.answer surroundings (.resolve asked) = .ok (.lines lines) →
          shown.ShownBy path asked.json lines → config.program = .mongod →
            run.archiveRoot config surroundings.archiveRoot surroundings.home = some root →
              ∃ artifact, RunArguments.artifact config (.ok host) = .ok artifact ∧
                StartsAt surroundings artifact (FilePath.join root path)
                  (CommandRequest.answer surroundings (.run run))
  refused : ∀ (run : RunArguments) (surroundings : Surroundings) (failure : CommandFailure),
    run.runConfig surroundings.readFile = .ok config → surroundings.host = .ok host →
      CommandRequest.answer surroundings (.resolve asked) = .error failure →
        ∃ cause, CommandRequest.answer surroundings (.run run) = .error cause ∧
          cause.message = failure.message

theorem runs_what_is_printed {input : String} {asked : ResolveArguments} {config : RunConfig}
    (parsed : Version.parse input = .ok asked.version) (same : config.AsksFor asked)
    (host : Platform) : RunsWhatIsPrinted host config asked := by
  have answer := same.sameAnswer host
  constructor
  case answer => exact answer
  case path =>
    intro resolution resolved root
    obtain ⟨os, plain⟩ := ResolveArguments.plainlyNamed parsed resolved
    exact resolution.expectedPath_eq plain root
  case printed => exact fun surroundings detected => same.printedAlike parsed detected
  case planned =>
    intro run surroundings lines shown path root accepted detected answered shows_it server rooted
    have printed := same.printedAlike parsed detected
    rw [answered] at printed
    generalize artifact_eq : RunArguments.artifact config (.ok host) = found at printed
    cases printed with
    | shown _ readings =>
        have described := readings shown path shows_it
        rw [← detected] at artifact_eq
        have starts := RunArguments.answer_of_artifact_ok accepted artifact_eq rooted
        rw [server, described.place root] at starts
        exact ⟨_, rfl, starts⟩
  case refused =>
    intro run surroundings failure accepted detected failed
    rw [CommandRequest.answer_resolve_error_iff, detected] at failed
    obtain ⟨cause, artifact_eq, message_eq⟩ := answer.message_eq failed
    rw [← detected] at artifact_eq
    exact ⟨cause, RunArguments.answer_of_artifact_error accepted artifact_eq, message_eq⟩

/-- Another operating system than the host's, and no base URL on either side. -/
theorem runs_what_is_printed_for_windows :
    let version : Version := ⟨"3.4.0", ⟨3, 4, 0⟩⟩
    let platform : PlatformOverride := { os := some "Win", osVersion := some "windowslegacy" }
    let asked : ResolveArguments := { version, platform }
    let config : RunConfig := { version, platform := some platform }
    let host : Platform := ⟨.linux, .x86, .b64, some .ubuntu2004⟩
    let surroundings : Surroundings :=
      { host := .ok host, readFile := fun _ => .error .notFound, isFile := fun _ => false }
    Version.parse "3.4.0" = .ok version ∧ config.AsksFor asked ∧ config.validate = .ok () ∧
      RunArguments.artifact config (.ok host) = .ok ⟨.zip,
        "https://fastdl.mongodb.org/win32/mongodb-win32-x86_64-3.4.0.zip", "bin", ".exe"⟩ ∧
      CommandRequest.answer surroundings (.resolve asked) = .ok (.lines
        ["3.4.0 on windows x86/64bit (Windows (pre 2008 R2))",
          "  url:        https://fastdl.mongodb.org/win32/mongodb-win32-x86_64-3.4.0.zip",
          "  archive:    zip",
          "  executable: mongodb-win32-x86_64-3.4.0/bin/mongod.exe"]) ∧
      RunsWhatIsPrinted host config asked := by
  intro version platform asked config host surroundings
  have parsed : Version.parse "3.4.0" = .ok version := by rfl
  have same : config.AsksFor asked := ⟨rfl, rfl, rfl⟩
  have accepted : config.validate = .ok () := eq_ok_of_toOption (by decide +kernel)
  have found : RunArguments.artifact config (.ok host) = .ok ⟨.zip,
      "https://fastdl.mongodb.org/win32/mongodb-win32-x86_64-3.4.0.zip", "bin", ".exe"⟩ :=
    eq_ok_of_toOption (by decide +kernel)
  refine ⟨parsed, same, accepted, found, ?_, runs_what_is_printed parsed same host⟩
  exact eq_ok_of_toOption (by decide +kernel)

end ThrowawayServer
