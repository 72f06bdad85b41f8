import ThrowawayServer.Text.Numeral

/-!
# Bytes in hexadecimal

Two digits for each byte, the higher one first.
-/

set_option autoImplicit false

namespace ThrowawayServer.Text

/-- The digit of a number below sixteen. -/
def hexDigit (n : Nat) : Char := (Nat.toDigits 16 n).headD '0'

def hexText (bytes : List UInt8) : String :=
  String.ofList (bytes.flatMap fun byte => [hexDigit (byte.toNat / 16), hexDigit (byte.toNat % 16)])

/-- The bytes that digits stand for, if they are digits and come in pairs. -/
def readHex? : List Char → Option (List UInt8)
  | [] => some []
  | [_] => none
  | high :: low :: rest => do
    let byte := (← digitValue? 16 high) * 16 + (← digitValue? 16 low)
    return .ofNat byte :: (← readHex? rest)

end ThrowawayServer.Text
