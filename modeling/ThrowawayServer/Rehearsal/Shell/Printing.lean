import ThrowawayServer.Text.Numeral
import ThrowawayServer.Text.Split
import ThrowawayServer.Text.Utf8

/-!
# Commands that print

`echo` and `printf` as the shell has them. What they print are bytes, since escapes can name bytes that
are no text.
-/

set_option autoImplicit false

namespace ThrowawayServer.Shell

/-- What a command prints, and how it ends. -/
structure Printed where
  out : List UInt8 := []
  err : List UInt8 := []
  status : Nat := 0
  deriving DecidableEq, Repr

namespace Printing

def bytes (text : String) : List UInt8 := Text.encodeUtf8 text.toList

def octalValue? (c : Char) : Option Nat := Text.digitValue? 8 c

def octalNumber (digits : List Char) : Nat :=
  digits.foldl (fun value c => value * 8 + (octalValue? c).getD 0) 0

/-- Up to three octal digits at the start of a text. -/
def octalDigits (text : List Char) : List Char :=
  (text.takeWhile fun c => (octalValue? c).isSome).take 3

/-- The byte that a letter after a backslash stands for. -/
def letterByte? : Char → Option UInt8
  | 'a' => some 7
  | 'b' => some 8
  | 'f' => some 12
  | 'n' => some 10
  | 'r' => some 13
  | 't' => some 9
  | 'v' => some 11
  | '\\' => some 92
  | '\x22' => some 34
  | _ => none

/-- What stands after a backslash: its bytes and how many characters belong to it. A zero before
octal digits is not counted among them if `hasZero` says so. -/
def escape (hasZero : Bool) (text : List Char) : List UInt8 × Nat :=
  match text with
  | [] => ([92], 0)
  | c :: rest =>
    if hasZero && c = '0' then
      let digits := octalDigits rest
      ([.ofNat (octalNumber digits)], digits.length + 1)
    else
      match octalDigits text with
      | [] =>
        match letterByte? c with
        | some byte => ([byte], 1)
        | none => (92 :: Text.encodeUtf8 [c], 1)
      | digits => ([.ofNat (octalNumber digits)], digits.length)

/-- The bytes of a text with escapes, and whether one of them asks to print nothing more. `skip` counts
characters that belong to an escape before them. -/
def unescape : Nat → List Char → List UInt8 × Bool
  | _, [] => ([], false)
  | skip + 1, _ :: rest => unescape skip rest
  | 0, '\\' :: rest =>
    if rest.head? = some 'c' then ([], true)
    else
      let (found, length) := escape true rest
      let (after, stops) := unescape length rest
      (found ++ after, stops)
  | 0, c :: rest =>
    let (after, stops) := unescape 0 rest
    (Text.encodeUtf8 [c] ++ after, stops)

/-- Prints the arguments with blanks between them. -/
def echo (arguments : List (List Char)) : Printed :=
  let isBare := arguments.head? = some ['-', 'n']
  let words := if isBare then arguments.drop 1 else arguments
  let (text, stops) := unescape 0 (List.intercalate [' '] words)
  { out := if isBare || stops then text else text ++ [10] }

structure Directive where
  isLeft : Bool := false
  isZeroFilled : Bool := false
  hasPlus : Bool := false
  width : Nat := 0
  precision : Option Nat := none
  letter : Char
  deriving DecidableEq, Repr

inductive FormatPart where
  | text (bytes : List UInt8)
  | directive (directive : Directive)
  deriving DecidableEq, Repr

/-- A directive after its percent sign, and how many characters belong to it. -/
def readDirective (text : List Char) : Option (Directive × Nat) :=
  let flags := text.takeWhile fun c => c = '-' || c = '0' || c = '+' || c = ' ' || c = '#'
  let text := text.drop flags.length
  let width := text.takeWhile Char.isDigit
  let text := text.drop width.length
  let number (digits : List Char) := (Text.readDigits 10 10000 0 digits).toOption.getD 0
  let (precision, text, length) : Option Nat × List Char × Nat := match text with
    | '.' :: rest =>
      let digits := rest.takeWhile Char.isDigit
      (some (number digits), rest.drop digits.length, digits.length + 1)
    | _ => (none, text, 0)
  text.head?.map fun letter =>
    ({ isLeft := flags.contains '-', isZeroFilled := flags.contains '0', hasPlus := flags.contains '+'
       width := number width, precision, letter },
      flags.length + width.length + length + 1)

/-- The parts of a format. `skip` counts characters that belong to a part before them. -/
def formatParts : Nat → List Char → List FormatPart
  | _, [] => []
  | skip + 1, _ :: rest => formatParts skip rest
  | 0, '\\' :: rest =>
    let (found, length) := escape false rest
    .text found :: formatParts length rest
  | 0, '%' :: '%' :: rest => .text [37] :: formatParts 0 rest
  | 0, '%' :: rest =>
    match readDirective rest with
    | some (directive, length) => .directive directive :: formatParts length rest
    | none => [.text [37]]
  | 0, c :: rest => .text (Text.encodeUtf8 [c]) :: formatParts 0 rest

def numberOf (argument : List Char) : Int :=
  match argument with
  | '-' :: digits => -((Text.readDigits 10 Text.signedLimit 0 digits).toOption.getD 0 : Nat)
  | '\x27' :: c :: _ | '\x22' :: c :: _ => c.toNat
  | '0' :: 'x' :: digits => ((Text.readDigits 16 Text.signedLimit 0 digits).toOption.getD 0 : Nat)
  | '+' :: digits | digits => ((Text.readDigits 10 Text.signedLimit 0 digits).toOption.getD 0 : Nat)

def fillUp (directive : Directive) (isNumber : Bool) (text : List UInt8) : List UInt8 :=
  let missing := directive.width - text.length
  if directive.isLeft then text ++ List.replicate missing 32
  else if directive.isZeroFilled && isNumber then
    match text with
    | 45 :: digits => 45 :: List.replicate missing 48 ++ digits
    | _ => List.replicate missing 48 ++ text
  else List.replicate missing 32 ++ text

/-- The digits of a number in a base, with zeros before them up to a precision. -/
def digitsOf (directive : Directive) (base : Nat) (n : Nat) : List Char :=
  let digits := Nat.toDigits base n
  List.replicate (directive.precision.getD 0 - digits.length) '0' ++ digits

/-- What a directive prints for an argument, and whether nothing is to follow. -/
def printDirective (directive : Directive) (argument : List Char) : List UInt8 × Bool :=
  let shorten (text : List UInt8) := directive.precision.elim text fun n => text.take n
  let number (digits : List Char) := (fillUp directive true (Text.encodeUtf8 digits), false)
  let n := numberOf argument
  match directive.letter with
  | 's' => (fillUp directive false (shorten (Text.encodeUtf8 argument)), false)
  | 'b' =>
    let (text, stops) := unescape 0 argument
    (fillUp directive false (shorten text), stops)
  | 'c' => (fillUp directive false (Text.encodeUtf8 (argument.take 1)), false)
  | 'd' | 'i' =>
    let sign := if n < 0 then ['-'] else if directive.hasPlus then ['+'] else []
    number (sign ++ digitsOf directive 10 n.natAbs)
  | 'u' => number (digitsOf directive 10 n.toNat)
  | 'o' => number (digitsOf directive 8 n.toNat)
  | 'x' => number (digitsOf directive 16 n.toNat)
  | 'X' => number ((digitsOf directive 16 n.toNat).map Char.toUpper)
  | _ => ([], false)

/-- One pass over a format, and the arguments that are left. -/
def printOnce : List FormatPart → List (List Char) → List UInt8 × List (List Char) × Bool
  | [], arguments => ([], arguments, false)
  | .text bytes :: parts, arguments =>
    let (after, left, stops) := printOnce parts arguments
    (bytes ++ after, left, stops)
  | .directive directive :: parts, arguments =>
    let (found, stops) := printDirective directive (arguments.headD [])
    if stops then (found, [], true)
    else
      let (after, left, stops) := printOnce parts (arguments.drop 1)
      (found ++ after, left, stops)

/-- Passes over a format until there is no argument left. -/
def printAll (parts : List FormatPart) : Nat → List (List Char) → List UInt8
  | 0, _ => []
  | fuel + 1, arguments =>
    let (found, left, stops) := printOnce parts arguments
    if stops || left.isEmpty || left.length = arguments.length then found
    else found ++ printAll parts fuel left

/-- Prints arguments as the first one says. -/
def printf (arguments : List (List Char)) : Printed :=
  match arguments with
  | [] => { status := 2 }
  | format :: rest =>
    let format := if format = ['-', '-'] then rest.headD [] else format
    { out := printAll (formatParts 0 format) (rest.length + 1) rest }

end Printing

end ThrowawayServer.Shell
