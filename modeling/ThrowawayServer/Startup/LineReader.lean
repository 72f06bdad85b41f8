import ThrowawayServer.Startup.Classifier
import ThrowawayServer.Text.Utf8

/-!
# Reading lines from a stream

A `LineReader` cuts the bytes of one output stream into lines for a classifier. It stops, as at the end
of the stream, at a line that is not valid UTF-8.
-/

set_option autoImplicit false

namespace ThrowawayServer

/-- What a reader holds of its stream. -/
structure LineReader where
  /-- The bytes of a line that has not ended, the latest first. -/
  pending : List UInt8 := []
  isStopped : Bool := false
  deriving DecidableEq, Repr

namespace LineReader

def stopped : LineReader := { isStopped := true }

/-- The text of a line whose bytes are given with the latest first; a carriage return at its end is
dropped. -/
def lineText? (pending : List UInt8) : Option (List Char) :=
  let bytes := match pending with
    | 0x0D :: rest => rest
    | _ => pending
  Text.decodeUtf8? bytes.reverse

/-- The reader after more bytes, and what it tells the classifier. -/
def read (reader : LineReader) : List UInt8 → LineReader × List StreamEvent
  | [] => (reader, [])
  | byte :: rest =>
    if reader.isStopped then (reader, [])
    else if byte = 0x0A then
      match lineText? reader.pending with
      | none => (stopped, [.ended])
      | some text =>
        let (reader, events) := read {} rest
        (reader, .line text :: events)
    else read { reader with pending := byte :: reader.pending } rest

/-- The reader after the end of its stream. A last line that no line feed ends keeps its carriage
return. -/
def close (reader : LineReader) : LineReader × List StreamEvent :=
  if reader.isStopped then (reader, [])
  else if reader.pending.isEmpty then (stopped, [.ended])
  else
    match Text.decodeUtf8? reader.pending.reverse with
    | none => (stopped, [.ended])
    | some text => (stopped, [.line text, .ended])

end LineReader

end ThrowawayServer
