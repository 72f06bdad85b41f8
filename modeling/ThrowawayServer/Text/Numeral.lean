/-!
# Numerals

Reading unsigned whole numbers of a limited size. A numeral is an optional plus sign and one or more
digits. Characters are judged from the left, so the first fault decides which error is reported: a
character that is no digit, or the digit at which the value passes the limit.
-/

set_option autoImplicit false

namespace ThrowawayServer.Text

/-- Why a text is not a numeral below a limit. -/
inductive NumeralError where
  | empty
  | invalidDigit
  | tooLarge
  deriving DecidableEq, Repr

/-- The wording of a numeral's fault. -/
def NumeralError.message : NumeralError → String
  | .empty => "cannot parse integer from empty string"
  | .invalidDigit => "invalid digit found in string"
  | .tooLarge => "number too large to fit in target type"

/-- The value of an ASCII digit in a base of at most 36. -/
def digitValue? (base : Nat) (c : Char) : Option Nat :=
  let value? :=
    if '0' ≤ c && c ≤ '9' then some (c.toNat - '0'.toNat)
    else if 'a' ≤ c && c ≤ 'z' then some (c.toNat - 'a'.toNat + 10)
    else if 'A' ≤ c && c ≤ 'Z' then some (c.toNat - 'A'.toNat + 10)
    else none
  value?.bind fun value => if value < base then some value else none

/-- The value of digits read on from `value`, at most `limit`. -/
def readDigits (base limit : Nat) : Nat → List Char → Except NumeralError Nat
  | value, [] => .ok value
  | value, c :: rest =>
    match digitValue? base c with
    | none => .error .invalidDigit
    | some digit =>
      let next := value * base + digit
      if next ≤ limit then readDigits base limit next rest else .error .tooLarge

/-- The value of a numeral in `base`, at most `limit`. -/
def readNumeral (base limit : Nat) (text : List Char) : Except NumeralError Nat :=
  match text with
  | [] => .error .empty
  | '+' :: [] => .error .invalidDigit
  | '+' :: digits => readDigits base limit 0 digits
  | digits => readDigits base limit 0 digits

/-- The first number that is too large for a signed word of 64 bits. -/
def signedLimit : Nat := 0x8000000000000000

/-- A decimal numeral of at most 2^16 - 1. -/
def readUInt16 (text : List Char) : Except NumeralError UInt16 :=
  (readNumeral 10 (UInt16.size - 1) text).map UInt16.ofNat

/-- A decimal numeral of at most 2^32 - 1. -/
def readUInt32 (text : List Char) : Except NumeralError UInt32 :=
  (readNumeral 10 (UInt32.size - 1) text).map UInt32.ofNat

/-- A decimal numeral of at most 2^64 - 1. -/
def readUInt64 (text : List Char) : Except NumeralError UInt64 :=
  (readNumeral 10 (UInt64.size - 1) text).map UInt64.ofNat

end ThrowawayServer.Text
