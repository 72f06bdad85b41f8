import ThrowawayServer.Platform.Detect
import ThrowawayServer.Rehearsal.Program

/-!
# The program

Reads the files that a command line names, carries it out on them and prints what comes of it. Programs
are not started but rehearsed.
-/

set_option autoImplicit false

namespace ThrowawayServer

/-- What is printed to those who ask for help. -/
def helpText : String :=
  "Usage: embedmongo [-l <log-level>] <command> [<args>]\n\n" ++
  "Commands:\n" ++
  "  resolve <version>      Print the archive of a version\n" ++
  "  detect                 Print the platform of this host\n" ++
  "  run [<version>]        Run a program until it ends or is interrupted\n" ++
  "  ranges [<versions>]    Print the ranges that versions make up"

/-- What is to be said about a failure. -/
def RehearsalFailure.text : RehearsalFailure → String
  | .usage error => error.message?.getD "Unrecognized or missing arguments"
  | .command failure => logText failure.message

/-- The file at a path, if it can be read. -/
def readEntry (path : String) : IO (Option FileEntry) := do
  try
    return some (.file (← IO.FS.readBinFile path).toList true)
  catch _ => return none

/-- The files with the one at a path, if it can be read. -/
def addEntry (directory : FileNames) (files : FileTree) (path : String) : IO FileTree := do
  let start := if path.startsWith "/" then [] else directory
  match ← readEntry path with
  | some entry => return files.put (start ++ FileTree.pathNames path) entry
  | none => return files

/-- The configuration file that a command line names. -/
def configPath? (arguments : List String) : Option String :=
  match CommandLine.parse arguments with
  | .ok { request := .run arguments, .. } => arguments.config
  | _ => none

/-- The program that a command line is to run, whether it is there or not. -/
def executable? (rehearsal : Rehearsal) (arguments : List String) : Option String :=
  match CommandLine.parse arguments with
  | .ok line =>
    match line.request.answer { rehearsal.surroundings with isFile := fun _ => true } with
    | .ok (.run plan) => some plan.executable
    | _ => none
  | .error _ => none

def detectHost : IO (Except PlatformError Platform) := do
  let header ← try
      pure ((← IO.FS.readBinFile (← IO.appPath)).toList.take 64)
    catch _ => pure []
  let release ← try
      pure (some (← IO.FS.readFile "/etc/os-release"))
    catch _ => pure none
  return Platform.detect header release

/-- Carries out a command line. -/
def carryOut (arguments : List String) : IO UInt32 := do
  let directory := FileTree.pathNames (← IO.currentDir).toString
  let plain := FileTree.system.put directory .directory
  let rehearsal : Rehearsal := {
    files := ← (configPath? arguments).toList.foldlM (addEntry directory) plain
    directory
    host := ← detectHost
    archiveRoot := ← IO.getEnv "EMBEDMONGO_ARTIFACT_DIR"
    home := ← IO.getEnv "HOME"
    temporaryDir := (← IO.getEnv "TMPDIR").getD "/tmp" }
  let files ← (executable? rehearsal arguments).toList.foldlM (addEntry directory) rehearsal.files
  let outcome := { rehearsal with files }.perform arguments
  if outcome.wantsHelp then IO.println helpText
  for line in outcome.lines do IO.println line
  for line in (outcome.report.bind (·.readyLine)).toList do IO.eprintln line
  for line in (outcome.report.bind RunReport.exitLine).toList do IO.eprintln line
  for failure in outcome.failure.toList do IO.eprintln failure.text
  return UInt32.ofNat (outcome.code.getD 0)

end ThrowawayServer

/-- Carries out the command line of the program. -/
def main (arguments : List String) : IO UInt32 := ThrowawayServer.carryOut arguments
