import ThrowawayServer.CommandLine.Parse
import ThrowawayServer.CommandLine.Session
import ThrowawayServer.Rehearsal.Stage

/-!
# Rehearsing a command line

A whole run of the program on files that are laid out for it. Servers and tools are scripts among those
files; no network is there, so that shutdown commands reach nobody.
-/

set_option autoImplicit false

namespace ThrowawayServer

/-- What a command line is carried out on. -/
structure Rehearsal where
  files : FileTree
  /-- The directory that relative paths start from. -/
  directory : FileNames := []
  host : Except PlatformError Platform
  /-- The root of the extracted archives, as the environment names it. -/
  archiveRoot : Option String := none
  home : Option String := none
  temporaryDir : String := "/tmp"
  /-- Whether a server is interrupted as soon as it is ready. -/
  isInterrupted : Bool := false
  /-- How many seconds a server is watched that is not interrupted. -/
  watchRounds : Nat := 10

/-- Why a command line comes to no good end. -/
inductive RehearsalFailure where
  | usage (error : UsageError)
  | command (failure : CommandFailure)
  deriving DecidableEq, Repr

/-- What a command line comes to. -/
structure RehearsalOutcome where
  /-- The exit code; none if the program is still running. -/
  code : Option Nat
  lines : List String := []
  wantsHelp : Bool := false
  failure : Option RehearsalFailure := none
  /-- What there is to tell about a program that was run. -/
  report : Option RunReport := none
  /-- How long it took, in milliseconds. -/
  time : Nat := 0

def RehearsalOutcome.output (outcome : RehearsalOutcome) : String :=
  String.join (outcome.lines.map (· ++ "\n"))

namespace Rehearsal

/-- What commands learn on a rehearsal. -/
def surroundings (rehearsal : Rehearsal) : Surroundings where
  host := rehearsal.host
  readFile := rehearsal.files.read rehearsal.directory
  isFile := rehearsal.files.isFile rehearsal.directory
  archiveRoot := rehearsal.archiveRoot
  home := rehearsal.home
  temporaryDir := rehearsal.temporaryDir

def stage (rehearsal : Rehearsal) (files : FileTree) : Stage :=
  let plain := Stage.fresh files
  { plain with
    directory := rehearsal.directory
    environment := plain.environment.put "TMPDIR" rehearsal.temporaryDir
    laterReply := { result := .error .networkUnreachable } }

def failed (failure : CommandFailure) : RehearsalOutcome :=
  { code := some 1, failure := some (.command failure) }

def run (rehearsal : Rehearsal) (plan : RunPlan) : RehearsalOutcome :=
  let made := plan.dataDir.elim (.ok rehearsal.files)
    (rehearsal.files.makeDirectory rehearsal.directory)
  match made with
  | .error error => failed (.dataDir error)
  | .ok files =>
    let isInterrupted (_ : Stage) : Bool := rehearsal.isInterrupted
    let (report, stage) :=
      plan.supervise Stage.host isInterrupted rehearsal.watchRounds (rehearsal.stage files)
    let outcome : RehearsalOutcome := match report.ending with
      | .failed failure => failed failure
      | .exited _ => { code := some 0 }
      | .unwatched => { code := none }
    { outcome with report, time := stage.now }

/-- Carries out a command line without the name of the program. -/
def perform (rehearsal : Rehearsal) (arguments : List String) : RehearsalOutcome :=
  match CommandLine.parse arguments with
  | .error .help => { code := some 0, wantsHelp := true }
  | .error (.usage error) => { code := some 1, failure := some (.usage error) }
  | .ok line =>
    match line.request.answer rehearsal.surroundings with
    | .error failure => failed failure
    | .ok (.lines lines) => { code := some 0, lines }
    | .ok (.run plan) => rehearsal.run plan

end Rehearsal

end ThrowawayServer
