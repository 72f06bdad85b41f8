import ThrowawayServer.Rehearsal.FileTree
import ThrowawayServer.Text.Numeral

/-!
# Conditions of the shell

What `test` decides about texts, numbers and files.
-/

set_option autoImplicit false

namespace ThrowawayServer.Shell

namespace Condition

def noNumber (text : String) : String := s!"Illegal number: {text}"

def number (text : String) : Except String Int :=
  let digits := text.toList.dropWhile fun c => c = ' ' || c = '\t'
  let read (digits : List Char) : Except String Int :=
    if digits.isEmpty then .error (noNumber text)
    else ((Text.readDigits 10 Text.signedLimit 0 digits).map Int.ofNat).mapError fun _ => noNumber text
  match digits with
  | '-' :: digits => (read digits).map fun n => -n
  | '+' :: digits => read digits
  | digits => read digits

/-- What an operator before one text decides. -/
def unary? (files : FileTree) (directory : FileNames) (operator text : String) : Option Bool :=
  let entry := (files.find directory text).toOption
  match operator with
  | "-n" => some (!text.isEmpty)
  | "-z" => some text.isEmpty
  | "-e" => some entry.isSome
  | "-d" => some (entry = some .directory)
  | "-f" => some (files.isFile directory text)
  | "-x" => some (entry.any fun entry => entry = .directory || entry.isExecutable)
  | "-r" | "-w" => some entry.isSome
  | "-s" => some (match entry with
    | some (.file content _) => !content.isEmpty
    | some .directory => true
    | _ => false)
  | "-L" | "-h" | "-p" | "-S" | "-b" | "-t" | "-u" | "-g" | "-k" => some false
  | "-c" => some (entry = some .sink)
  | _ => none

/-- What an operator between two texts decides. -/
def binary? (operator : String) (left right : String) : Option (Except String Bool) :=
  let compare (p : Int → Int → Bool) : Option (Except String Bool) :=
    some (do return p (← number left) (← number right))
  match operator with
  | "=" | "==" => some (.ok (left = right))
  | "!=" => some (.ok (left ≠ right))
  | "<" => some (.ok (left < right))
  | ">" => some (.ok (right < left))
  | "-eq" => compare fun x y => x = y
  | "-ne" => compare fun x y => x ≠ y
  | "-lt" => compare fun x y => x < y
  | "-le" => compare fun x y => x ≤ y
  | "-gt" => compare fun x y => y < x
  | "-ge" => compare fun x y => y ≤ x
  | _ => none

/-- The texts before and after the first occurrence of a word that is not the first text. -/
def splitAt? (word : String) (texts : List String) : Option (List String × List String) :=
  let before := texts.takeWhile (· ≠ word)
  if before.isEmpty || before.length = texts.length then none
  else some (before, texts.drop (before.length + 1))

/-- What `test` decides. `fuel` bounds the number of its parts. -/
def decide? (files : FileTree) (directory : FileNames) : Nat → List String → Except String Bool
  | 0, _ => .error "too many arguments"
  | fuel + 1, texts =>
    let general (texts : List String) : Except String Bool :=
      match splitAt? "-o" texts with
      | some (left, right) => do
        return (← decide? files directory fuel left) || (← decide? files directory fuel right)
      | none =>
        match splitAt? "-a" texts with
        | some (left, right) => do
          return (← decide? files directory fuel left) && (← decide? files directory fuel right)
        | none =>
          match texts with
          | "!" :: rest => (decide? files directory fuel rest).map (!·)
          | text :: _ => .error s!"{text}: unexpected operator"
          | [] => .ok false
    match texts with
    | [] => .ok false
    | [text] => .ok (!text.isEmpty)
    | [operator, text] =>
      if operator = "!" then .ok text.isEmpty
      else
        match unary? files directory operator text with
        | some answer => .ok answer
        | none => .error s!"{operator}: unexpected operator"
    | [left, operator, right] =>
      match binary? operator left right with
      | some answer => answer
      | none =>
        if left = "(" && right = ")" then .ok (!operator.isEmpty) else general texts
    | texts => general texts

end Condition

end ThrowawayServer.Shell
