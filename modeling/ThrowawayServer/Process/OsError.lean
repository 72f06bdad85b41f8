/-!
# Operating system errors

What can go wrong when files are read, processes are started or signals are sent, with the wording
that users see.
-/

set_option autoImplicit false

namespace ThrowawayServer

/-- Why a file, process or connection operation failed. -/
inductive OsError where
  | notFound
  | noSuchProcess
  | wrongExecutableFormat
  | permissionDenied
  | notADirectory
  | isADirectory
  | fileExists
  | networkUnreachable
  | connectionRefused
  | invalidUtf8
  | pidOutOfRange
  /-- A failure that is reported by its text alone. -/
  | other (text : String)
  deriving DecidableEq, Repr

/-- The wording of an operating system's error with its number. -/
private def numbered (text : String) (number : Nat) : String :=
  s!"{text} (os error {number})"

/-- The wording of a failed operation. -/
def OsError.message : OsError → String
  | .notFound => numbered "No such file or directory" 2
  | .noSuchProcess => numbered "No such process" 3
  | .wrongExecutableFormat => numbered "Exec format error" 8
  | .permissionDenied => numbered "Permission denied" 13
  | .notADirectory => numbered "Not a directory" 20
  | .fileExists => numbered "File exists" 17
  | .isADirectory => numbered "Is a directory" 21
  | .networkUnreachable => numbered "Network is unreachable" 101
  | .connectionRefused => numbered "Connection refused" 111
  | .invalidUtf8 => "stream did not contain valid UTF-8"
  | .pidOutOfRange => "pid out of range"
  | .other text => text

end ThrowawayServer
