import ThrowawayServer.Text.Numeral

/-!
# Arithmetic of the shell

Expressions over whole numbers, with the names of variables that hold numbers. Comparisons and logical
operators give one or zero.
-/

set_option autoImplicit false

namespace ThrowawayServer.Shell

/-- Why an expression has no value. -/
inductive ArithmeticFault where
  | malformed
  | divisionByZero
  deriving DecidableEq, Repr

namespace Arithmetic

/-- The operators between two operands, with the looser ones first. -/
def levels : List (List String) :=
  [["||"], ["&&"], ["|"], ["^"], ["&"], ["==", "!="], ["<=", ">=", "<", ">"], ["<<", ">>"],
    ["+", "-"], ["*", "/", "%"]]

/-- A truth value as a number. -/
def ofBool (b : Bool) : Int := if b then 1 else 0

/-- What an operator gives for two operands. -/
def apply (operator : String) (x y : Int) : Except ArithmeticFault Int :=
  match operator with
  | "||" => .ok (ofBool (x ≠ 0 || y ≠ 0))
  | "&&" => .ok (ofBool (x ≠ 0 && y ≠ 0))
  | "|" => .ok (Int.ofNat (x.toNat ||| y.toNat))
  | "^" => .ok (Int.ofNat (x.toNat ^^^ y.toNat))
  | "&" => .ok (Int.ofNat (x.toNat &&& y.toNat))
  | "==" => .ok (ofBool (x == y))
  | "!=" => .ok (ofBool (x != y))
  | "<=" => .ok (ofBool (x ≤ y))
  | ">=" => .ok (ofBool (x ≥ y))
  | "<" => .ok (ofBool (x < y))
  | ">" => .ok (ofBool (x > y))
  | "<<" => .ok (x * Int.pow 2 y.toNat)
  | ">>" => .ok (x.fdiv (Int.pow 2 y.toNat))
  | "+" => .ok (x + y)
  | "-" => .ok (x - y)
  | "*" => .ok (x * y)
  | "/" => if y = 0 then .error .divisionByZero else .ok (x.tdiv y)
  | "%" => if y = 0 then .error .divisionByZero else .ok (x.tmod y)
  | _ => .error .malformed

/-- The text without the blanks at its start. -/
def dropBlanks (text : List Char) : List Char := text.dropWhile Char.isWhitespace

/-- The longest operator that a text begins with. -/
def operator? (text : List Char) : Option String :=
  let found := levels.flatten.filter fun operator => operator.toList.isPrefixOf text
  found.find? (fun operator => operator.length = 2) <|> found.head?

/-- The value of a written number, or of a variable that holds one; an unknown name is zero. -/
def atom (value? : String → Option (List Char)) (text : List Char) :
    Except ArithmeticFault (Int × List Char) :=
  let name := text.takeWhile fun c => c.isAlphanum || c = '_'
  let rest := text.drop name.length
  match name with
  | [] => .error .malformed
  | c :: _ =>
    if c.isDigit then
      match Text.readDigits 10 Text.signedLimit 0 name with
      | .ok n => .ok (n, rest)
      | .error _ => .error .malformed
    else
      match dropBlanks ((value? (String.ofList name)).getD []) with
      | [] => .ok (0, rest)
      | '-' :: digits =>
        match Text.readDigits 10 Text.signedLimit 0 digits with
        | .ok n => .ok (-n, rest)
        | .error _ => .error .malformed
      | digits =>
        match Text.readDigits 10 Text.signedLimit 0 digits with
        | .ok n => .ok (n, rest)
        | .error _ => .error .malformed

mutual

/-- An operand with the signs before it. -/
def operand (value? : String → Option (List Char)) :
    Nat → List Char → Except ArithmeticFault (Int × List Char)
  | 0, _ => .error .malformed
  | fuel + 1, text =>
    match dropBlanks text with
    | '-' :: rest => (operand value? fuel rest).map fun (x, rest) => (-x, rest)
    | '+' :: rest => operand value? fuel rest
    | '!' :: rest => (operand value? fuel rest).map fun (x, rest) => (ofBool (x == 0), rest)
    | '(' :: rest =>
      match level value? fuel 0 rest with
      | .error fault => .error fault
      | .ok (x, rest) =>
        match dropBlanks rest with
        | ')' :: rest => .ok (x, rest)
        | _ => .error .malformed
    | text => atom value? text

/-- Operands with operators of a level or tighter ones between them. -/
def level (value? : String → Option (List Char)) :
    Nat → Nat → List Char → Except ArithmeticFault (Int × List Char)
  | 0, _, _ => .error .malformed
  | fuel + 1, depth, text =>
    if depth < levels.length then
      match level value? fuel (depth + 1) text with
      | .error fault => .error fault
      | .ok (x, rest) => more value? fuel depth x rest
    else operand value? fuel text

/-- Goes on from a left operand as long as operators of the level follow. -/
def more (value? : String → Option (List Char)) :
    Nat → Nat → Int → List Char → Except ArithmeticFault (Int × List Char)
  | 0, _, _, _ => .error .malformed
  | fuel + 1, depth, x, text =>
    let rest := dropBlanks text
    match operator? rest with
    | none => .ok (x, rest)
    | some operator =>
      if (levels.getD depth []).contains operator then
        match level value? fuel (depth + 1) (rest.drop operator.length) with
        | .error fault => .error fault
        | .ok (y, rest) =>
          match apply operator x y with
          | .error fault => .error fault
          | .ok z => more value? fuel depth z rest
      else .ok (x, rest)

end

/-- The value of an expression; `value?` tells what variables hold. -/
def evaluate (value? : String → Option (List Char)) (text : List Char) :
    Except ArithmeticFault Int :=
  if (dropBlanks text).isEmpty then .ok 0
  else
    match level value? (20 * text.length + 40) 0 text with
    | .error fault => .error fault
    | .ok (x, rest) => if (dropBlanks rest).isEmpty then .ok x else .error .malformed

end Arithmetic

end ThrowawayServer.Shell
