import ThrowawayServer.Catalog.Program
import ThrowawayServer.Pattern.Match
import ThrowawayServer.Text.Split

/-!
# What programs print when they start

`StartupPatterns` tell which line of a program's output settles how its start went: pieces of text that
say that it is ready, and patterns that say that it failed. A sign of readiness counts before any sign
of failure in the same line, and failures are tried in their order.
-/

set_option autoImplicit false

namespace ThrowawayServer

/-- How a start went. -/
inductive StartupVerdict where
  | ready
  | failed (text : List Char)
  /-- All output has ended. -/
  | closed
  deriving DecidableEq, Repr

/-- What settles how a start went. -/
structure StartupPatterns where
  /-- Pieces of text of which one in a line means readiness. -/
  success : List (List Char) := []
  failures : List Pattern := []
  /-- Whether the end of all output means success, as it does for tools that run to their end. -/
  succeedsAtEnd : Bool := false
  deriving DecidableEq, Repr

namespace StartupPatterns

/-- The name that patterns give to the text of a failure. -/
def errorName : String := "error"

/-- Whether no line can settle anything. -/
def isEmpty (patterns : StartupPatterns) : Bool :=
  patterns.success.isEmpty && patterns.failures.isEmpty

/-- Whether a line means readiness. -/
def isSuccess (patterns : StartupPatterns) (line : List Char) : Bool :=
  patterns.success.any fun piece => Text.contains piece line

/-- The text of a failure in a line: what the pattern names as such, or all that it describes. -/
def failureText? (pattern : Pattern) (line : List Char) : Option (List Char) :=
  (pattern.find? line).map fun found =>
    Text.trim ((found.named? errorName).getD found.text)

/-- What a line means, if it settles anything. -/
def classify (patterns : StartupPatterns) (line : List Char) : Option StartupVerdict :=
  if patterns.isSuccess line then some .ready
  else (patterns.failures.findSome? fun pattern => failureText? pattern line).map .failed

/-- What the end of all output means. -/
def atEnd (patterns : StartupPatterns) : StartupVerdict :=
  if patterns.succeedsAtEnd then .ready else .closed

/-- A failure's text that starts with a fixed piece and goes on to the end of the line. -/
def failureFrom (start : String) : Pattern :=
  .named errorName (.sequence (.text start) .anything)

/-- What the servers print. The second sign of readiness belongs to structured logs. -/
def server : StartupPatterns where
  success :=
    ["waiting for connections on port".toList, "\"msg\":\"Waiting for connections\"".toList]
  failures :=
    [.named errorName (.text "Address already in use"),
      failureFrom "error while loading shared libraries:",
      failureFrom "Error parsing command line:",
      failureFrom "Error parsing option ",
      .named errorName
        (.all [.text "Data directory ", .anything, .text " not found", .anything]),
      failureFrom "DBPathInUse:",
      failureFrom "exception in initAndListen",
      .sequence (.text "ERROR: ") (.named errorName .anything)]

def tool : StartupPatterns where
  failures :=
    [failureFrom "error while loading shared libraries:",
      .sequence (.text "Failed: ") (.named errorName .anything)]
  succeedsAtEnd := true

end StartupPatterns

/-- What a program prints when it starts. -/
def Program.startupPatterns (program : Program) : StartupPatterns :=
  if program.isServer then .server else .tool

end ThrowawayServer
