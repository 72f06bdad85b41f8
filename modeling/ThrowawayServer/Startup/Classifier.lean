import ThrowawayServer.Startup.Patterns
import ThrowawayServer.Text.Numeral

/-!
# Classifying a start by its output

A `Classifier` takes in what happens on the output streams of a program until one event settles how
its start went: a line that the patterns know, or the end of the last open stream. From then on it does
not change, and it holds the lines up to the one that settled it.
-/

set_option autoImplicit false

namespace ThrowawayServer

/-- The process number that a server prints, if it prints one. -/
abbrev ReportedPid := Option UInt32

/-- A reported process number in words. -/
def ReportedPid.toText : ReportedPid → String
  | none => "unknown"
  | some pid => toString pid.toNat

/-- What can happen on the output streams of a program. -/
inductive StreamEvent where
  | attach
  | line (text : List Char)
  | ended
  deriving DecidableEq, Repr

/-- What is known about a start. -/
structure Classifier where
  patterns : StartupPatterns
  lines : List (List Char) := []
  openStreams : Nat := 0
  verdict : Option StartupVerdict := none
  deriving Repr

/-- What a wait for a verdict comes back with. -/
inductive StartupOutcome where
  | ready
  | failed (text : List Char)
  | closed
  /-- The time ran out. -/
  | notFound
  deriving DecidableEq, Repr

namespace Classifier

def settle (classifier : Classifier) (verdict : StartupVerdict) : Classifier :=
  { classifier with verdict := classifier.verdict <|> some verdict }

/-- The classifier with one more open stream. -/
def attach (classifier : Classifier) : Classifier :=
  { classifier with openStreams := classifier.openStreams + 1 }

/-- The classifier after a line, which is kept unless there is a verdict already. -/
def feed (classifier : Classifier) (line : List Char) : Classifier :=
  if classifier.verdict.isSome then classifier
  else { classifier with
    lines := classifier.lines ++ [line]
    verdict := classifier.patterns.classify line }

def streamEnded (classifier : Classifier) : Classifier :=
  let rest := { classifier with openStreams := classifier.openStreams - 1 }
  if classifier.openStreams = 1 then rest.settle classifier.patterns.atEnd else rest

def step (classifier : Classifier) : StreamEvent → Classifier
  | .attach => classifier.attach
  | .line text => classifier.feed text
  | .ended => classifier.streamEnded

def run (classifier : Classifier) (events : List StreamEvent) : Classifier :=
  events.foldl step classifier

/-- What a wait comes back with at once, or when the time has run out without a verdict. -/
def outcome (classifier : Classifier) : StartupOutcome :=
  match classifier.verdict with
  | some .ready => .ready
  | some (.failed text) => .failed text
  | some .closed => .closed
  | none => .notFound

/-- Lines with line feeds between them. -/
def joinLines : List (List Char) → List Char
  | [] => []
  | [line] => line
  | line :: rest => line ++ '\n' :: joinLines rest

/-- The lines so far with line feeds between them. -/
def output (classifier : Classifier) : String :=
  String.ofList (joinLines classifier.lines)

/-- The name that `pidPattern` gives to the process number. -/
def pidName : String := "pid"

/-- A server's first line with its process number, as plain text or in a structured log. -/
def pidPattern : Pattern :=
  let blanks : Pattern := .many (.char .blank) true
  let plain : Pattern := .all [blanks, .text ":", blanks, .text "pid="]
  let structured : Pattern :=
    .all [.text "\"", .many .anyChar false, .text "\"pid\":"]
  .all [.text "MongoDB starting", .choice plain structured,
    .named pidName (.repeated (.char .digit) true)]

/-- The process number printed in a line: none if the line prints none, and unknown if it cannot be
read. -/
def reportedIn? (line : List Char) : Option ReportedPid :=
  (pidPattern.find? line).map fun found =>
    (found.named? pidName).bind fun digits => (Text.readUInt32 digits).toOption

/-- The process number by the first line that prints one. -/
def pid (classifier : Classifier) : ReportedPid :=
  (classifier.lines.findSome? reportedIn?).getD none

end Classifier

end ThrowawayServer
