import ThrowawayServer.Text.Numeral
import ThrowawayServer.Text.Split

/-!
# Internet addresses

Addresses of both families, their text and the sockets on them. IPv4 octets are decimal without
leading zeros. IPv6 groups are hexadecimal; the longest run of at least two zero groups is written as
two colons, the first one if there are several, and an address that maps an IPv4 one ends in its
dotted form. Reading accepts one pair of colons anywhere for one or more groups and a dotted ending.
-/

set_option autoImplicit false

namespace ThrowawayServer

/-- The four octets of an IPv4 address. -/
structure Ipv4 where
  a : UInt8
  b : UInt8
  c : UInt8
  d : UInt8
  deriving DecidableEq, Repr

/-- The eight groups of an IPv6 address. -/
structure Ipv6 where
  groups : Vector UInt16 8
  deriving DecidableEq, Repr

/-- An address of either family. -/
inductive IpAddress where
  | v4 (address : Ipv4)
  | v6 (address : Ipv6)
  deriving DecidableEq, Repr

namespace Ipv4

/-- The address of the host itself. -/
def localhost : Ipv4 := ⟨127, 0, 0, 1⟩

/-- The octets in decimal with dots between them. -/
def toText (ip : Ipv4) : String :=
  s!"{ip.a.toNat}.{ip.b.toNat}.{ip.c.toNat}.{ip.d.toNat}"

/-- An octet of one to three decimal digits at the start of a text, and what follows it. A zero may
not lead other digits. -/
def readOctet? (text : List Char) : Option (UInt8 × List Char) :=
  let digits := text.takeWhile Char.isDigit
  if digits.isEmpty || digits.length > 3 || (digits.head? = some '0' && digits.length > 1) then none
  else
    match Text.readDigits 10 255 0 digits with
    | .ok value => some (UInt8.ofNat value, text.drop digits.length)
    | .error _ => none

/-- What follows a character at the start of a text. -/
def after? (mark : Char) (text : List Char) : Option (List Char) :=
  Text.stripStart? [mark] text

/-- An address at the start of a text, and what follows it. -/
def read? (text : List Char) : Option (Ipv4 × List Char) := do
  let (a, text) ← readOctet? text
  let (b, text) ← readOctet? (← after? '.' text)
  let (c, text) ← readOctet? (← after? '.' text)
  let (d, text) ← readOctet? (← after? '.' text)
  return (⟨a, b, c, d⟩, text)

end Ipv4

namespace Ipv6

/-- The address with these groups; missing ones are zero. -/
def ofGroups (groups : List UInt16) : Ipv6 :=
  ⟨Vector.ofFn fun i => groups.getD i 0⟩

/-- A group of one to four hexadecimal digits at the start of a text, and what follows it. -/
def readGroup? (text : List Char) : Option (UInt16 × List Char) :=
  let digits := text.takeWhile fun c => (Text.digitValue? 16 c).isSome
  if digits.isEmpty || digits.length > 4 then none
  else
    match Text.readDigits 16 0xFFFF 0 digits with
    | .ok value => some (UInt16.ofNat value, text.drop digits.length)
    | .error _ => none

/-- What follows the colon before a group; the first group has none. -/
def afterColon? (isFirst : Bool) (text : List Char) : Option (List Char) :=
  if isFirst then some text else Ipv4.after? ':' text

structure GroupRun where
  groups : List UInt16
  endsDotted : Bool
  rest : List Char

/-- Up to `limit` groups with colons between them; a dotted address counts as two and ends the run. -/
def readGroups (isFirst : Bool) : Nat → List Char → GroupRun
  | 0, text => ⟨[], false, text⟩
  | limit + 1, text =>
    let dotted? := if limit = 0 then none else (afterColon? isFirst text).bind Ipv4.read?
    match dotted? with
    | some (ip, rest) =>
      let pair (high low : UInt8) : UInt16 := high.toUInt16 * 256 + low.toUInt16
      ⟨[pair ip.a ip.b, pair ip.c ip.d], true, rest⟩
    | none =>
      match (afterColon? isFirst text).bind readGroup? with
      | none => ⟨[], false, text⟩
      | some (group, rest) =>
        let run := readGroups false limit rest
        { run with groups := group :: run.groups }

/-- An address at the start of a text, and what follows it. -/
def read? (text : List Char) : Option (Ipv6 × List Char) :=
  let head := readGroups true 8 text
  if head.groups.length = 8 then some (ofGroups head.groups, head.rest)
  else if head.endsDotted then none
  else
    (Text.stripStart? [':', ':'] head.rest).map fun rest =>
      let tail := readGroups true (7 - head.groups.length) rest
      let zeros := List.replicate (8 - head.groups.length - tail.groups.length) 0
      (ofGroups (head.groups ++ zeros ++ tail.groups), tail.rest)

/-- The number of zeros at the start of a list. -/
def leadingZeros (groups : List UInt16) : Nat :=
  (groups.takeWhile (· = 0)).length

/-- Start and length of the longest run of zero groups, the first one among equals. -/
def longestZeroRun (groups : List UInt16) : Nat × Nat :=
  (List.range groups.length).foldl (fun best start =>
    let length := leadingZeros (groups.drop start)
    if best.2 < length then (start, length) else best) (0, 0)

/-- Groups in hexadecimal with colons between them. -/
def groupsText (groups : List UInt16) : String :=
  Text.join ":" (groups.map fun group => String.ofList (Nat.toDigits 16 group.toNat))

/-- The IPv4 address that an address maps, if it maps one. -/
def mapped? (ip : Ipv6) : Option Ipv4 :=
  match ip.groups.toList with
  | [0, 0, 0, 0, 0, 0xFFFF, high, low] =>
    some ⟨(high / 256).toUInt8, high.toUInt8, (low / 256).toUInt8, low.toUInt8⟩
  | _ => none

/-- The text of an address, as short as the rules make it. -/
def toText (ip : Ipv6) : String :=
  match ip.mapped? with
  | some v4 => "::ffff:" ++ v4.toText
  | none =>
    let groups := ip.groups.toList
    let (start, length) := longestZeroRun groups
    if length > 1 then
      groupsText (groups.take start) ++ "::" ++ groupsText (groups.drop (start + length))
    else groupsText groups

end Ipv6

namespace IpAddress

def toText : IpAddress → String
  | .v4 ip => ip.toText
  | .v6 ip => ip.toText

/-- An address at the start of a text, and what follows it. -/
def read? (text : List Char) : Option (IpAddress × List Char) :=
  match Ipv4.read? text with
  | some (ip, rest) => some (.v4 ip, rest)
  | none => (Ipv6.read? text).map fun (ip, rest) => (.v6 ip, rest)

def parse? (text : String) : Option IpAddress :=
  match read? text.toList with
  | some (ip, []) => some ip
  | _ => none

/-- Whether the address is the host's own: 127.0.0.0/8, or `::1`. -/
def isLoopback : IpAddress → Bool
  | .v4 ip => ip.a = 127
  | .v6 ip => ip.groups.toList = [0, 0, 0, 0, 0, 0, 0, 1]

end IpAddress

structure SocketAddress where
  ip : IpAddress
  port : UInt16
  /-- The scope of a link-local IPv6 address. -/
  scope : UInt32 := 0
  deriving DecidableEq, Repr

namespace SocketAddress

/-- The text of a socket; IPv6 addresses stand in brackets. -/
def toText (s : SocketAddress) : String :=
  match s.ip with
  | .v4 ip => s!"{ip.toText}:{s.port.toNat}"
  | .v6 ip =>
    let scope := if s.scope = 0 then "" else s!"%{s.scope.toNat}"
    s!"[{ip.toText}{scope}]:{s.port.toNat}"

/-- A number of decimal digits alone, at most `limit`. -/
def readPlain? (limit : Nat) (text : List Char) : Option Nat :=
  if text.isEmpty then none else (Text.readDigits 10 limit 0 text).toOption

/-- The port after the colon that is all that follows an address. -/
def readPort? (text : List Char) : Option UInt16 := do
  let digits ← Ipv4.after? ':' text
  return UInt16.ofNat (← readPlain? 0xFFFF digits)

/-- The scope before the bracket that closes an IPv6 address, and what follows the bracket. -/
def readScope? (text : List Char) : Option (UInt32 × List Char) :=
  match text with
  | ']' :: rest => some (0, rest)
  | '%' :: rest => do
    let (digits, rest) ← Text.splitFirst ']' rest
    return (UInt32.ofNat (← readPlain? 0xFFFFFFFF digits), rest)
  | _ => none

def parse? (text : String) : Option SocketAddress :=
  match text.toList with
  | '[' :: inside => do
    let (ip, rest) ← Ipv6.read? inside
    let (scope, rest) ← readScope? rest
    return { ip := .v6 ip, port := ← readPort? rest, scope }
  | text => do
    let (ip, rest) ← Ipv4.read? text
    return { ip := .v4 ip, port := ← readPort? rest }

end SocketAddress

end ThrowawayServer
