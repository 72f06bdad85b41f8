import ThrowawayServer.Text.Utf8

/-!
# Shutdown messages

The two messages that ask a server to shut down. A message is a header of four words (its length, its
number, the number it answers and what kind it is) and a body. Both carry the document
`shutdown: 1, force: true` for the database `admin`: the older kind as a query on the commands of that
database, the current kind with the database named inside the document. Words are stored with the
lowest byte first.
-/

set_option autoImplicit false

namespace ThrowawayServer.Message

abbrev Bytes := List UInt8

def word (value : Int32) : Bytes :=
  let n := value.toUInt32.toNat
  [.ofNat n, .ofNat (n / 0x100), .ofNat (n / 0x10000), .ofNat (n / 0x1000000)]

/-- A text with a zero byte at its end. -/
def terminated (s : String) : Bytes := Text.encodeUtf8 s.toList ++ [0]

/-- A named value of a document. -/
inductive Element where
  | text (name value : String)
  | boolean (name : String) (value : Bool)
  | number (name : String) (value : Int32)

/-- The bytes of a named value: its kind, its name and itself. -/
def Element.encode : Element → Bytes
  | .text name value =>
    let bytes := terminated value
    2 :: terminated name ++ word (.ofNat bytes.length) ++ bytes
  | .boolean name value => 8 :: terminated name ++ [if value then 1 else 0]
  | .number name value => 16 :: terminated name ++ word value

/-- A document: its length, its values and a zero byte. -/
def document (elements : List Element) : Bytes :=
  let body := elements.flatMap Element.encode ++ [0]
  word (.ofNat (body.length + 4)) ++ body

def headerLength : Nat := 16

/-- A message of a kind that answers nothing. -/
def frame (number kind : Int32) (body : Bytes) : Bytes :=
  word (.ofNat (headerLength + body.length)) ++ word number ++ word 0 ++ word kind ++ body

/-- What both messages ask for. -/
def shutdownElements : List Element := [.number "shutdown" 1, .boolean "force" true]

/-- The older message: a query with no flags, skipping nothing and asking for one answer. -/
def legacyShutdown : Bytes :=
  frame 1 2004
    (word 0 ++ terminated "admin.$cmd" ++ word 0 ++ word (-1) ++ document shutdownElements)

/-- The current message: no flags and one section. -/
def shutdown : Bytes :=
  frame 2 2013 (word 0 ++ [0] ++ document (shutdownElements ++ [.text "$db" "admin"]))

/-- The word whose first byte stands at an offset. Offsets are of 64 bits and their sums wrap around,
so that there is no word where its end would lie before its start. -/
def readWord? (bytes : Bytes) (offset : UInt64) : Option Int32 :=
  let stop := offset + 4
  if offset ≤ stop && stop.toNat ≤ bytes.length then
    match bytes.drop offset.toNat with
    | a :: b :: c :: d :: _ =>
      let n := a.toNat + 0x100 * b.toNat + 0x10000 * c.toNat + 0x1000000 * d.toNat
      some (UInt32.ofNat n).toInt32
    | _ => none
  else none

/-- The declared length and the kind of a message. -/
def header? (bytes : Bytes) : Option (Int32 × Int32) := do
  return (← readWord? bytes 0, ← readWord? bytes 12)

end ThrowawayServer.Message
