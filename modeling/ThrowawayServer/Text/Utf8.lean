/-!
# UTF-8

Decoding bytes into characters. Only the shortest form of a code point counts, and surrogates and
code points above the last one have no form at all.
-/

set_option autoImplicit false

namespace ThrowawayServer.Text

/-- Where the decoder stands inside a character. -/
inductive Utf8State where
  /-- Between characters. -/
  | start
  /-- `missing` more bytes follow; the next one lies between `low` and `high`, and the bytes so far make
  `code`. -/
  | inside (missing : Nat) (low high : UInt8) (code : Nat)
  deriving DecidableEq, Repr

/-- What the first byte of a character says about it; the bounds of the second byte exclude forms that
are too long, surrogates and code points that are too large. -/
def utf8Lead? (byte : UInt8) : Option Utf8State :=
  if 0xC2 ≤ byte && byte ≤ 0xDF then some (.inside 1 0x80 0xBF (byte.toNat - 0xC0))
  else if byte = 0xE0 then some (.inside 2 0xA0 0xBF 0)
  else if byte = 0xED then some (.inside 2 0x80 0x9F 0xD)
  else if 0xE1 ≤ byte && byte ≤ 0xEF then some (.inside 2 0x80 0xBF (byte.toNat - 0xE0))
  else if byte = 0xF0 then some (.inside 3 0x90 0xBF 0)
  else if 0xF1 ≤ byte && byte ≤ 0xF3 then some (.inside 3 0x80 0xBF (byte.toNat - 0xF0))
  else if byte = 0xF4 then some (.inside 3 0x80 0x8F 4)
  else none

/-- The characters that bytes stand for, from a state of the decoder on. -/
def decodeUtf8From : Utf8State → List UInt8 → Option (List Char)
  | .start, [] => some []
  | .inside _ _ _ _, [] => none
  | .start, byte :: rest =>
    if byte < 0x80 then (decodeUtf8From .start rest).map (Char.ofNat byte.toNat :: ·)
    else (utf8Lead? byte).bind fun state => decodeUtf8From state rest
  | .inside missing low high code, byte :: rest =>
    if low ≤ byte && byte ≤ high then
      let code := code * 64 + (byte.toNat - 0x80)
      if missing ≤ 1 then (decodeUtf8From .start rest).map (Char.ofNat code :: ·)
      else decodeUtf8From (.inside (missing - 1) 0x80 0xBF code) rest
    else none

/-- The characters that bytes stand for, if they are well-formed. -/
def decodeUtf8? (bytes : List UInt8) : Option (List Char) :=
  decodeUtf8From .start bytes

/-- The bytes that stand for characters. -/
def encodeUtf8 (text : List Char) : List UInt8 :=
  text.flatMap String.utf8EncodeChar

end ThrowawayServer.Text
