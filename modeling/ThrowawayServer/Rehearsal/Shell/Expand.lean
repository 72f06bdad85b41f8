import ThrowawayServer.Rehearsal.Shell.Arithmetic
import ThrowawayServer.Rehearsal.Shell.Syntax
import ThrowawayServer.Rehearsal.Shell.Wildcard
import ThrowawayServer.Text.Split

/-!
# Expanding words

A word turns into arguments in two steps: its pieces become marked characters, and the marks tell
where the characters are cut into arguments. What commands print is filled in before, by `firstOutput?`
and `fill`, because commands take their time.
-/

set_option autoImplicit false

namespace ThrowawayServer.Shell

/-- What words can refer to. -/
structure Scope where
  bindings : List (String × List Char) := []
  arguments : List (List Char) := []
  /-- The name that the script goes by. -/
  name : List Char := []
  /-- How the last command ended. -/
  status : Nat := 0
  pid : Nat := 0
  lastJob : Option Nat := none
  /-- Whether a variable without a value is a fault. -/
  needsValues : Bool := false

/-- Why a word cannot be expanded. -/
structure ExpansionFault where
  text : String
  deriving DecidableEq, Repr

abbrev Expansion (α : Type) := StateT Scope (Except ExpansionFault) α

/-- A character of an expanded word, or what stands between characters. -/
inductive Mark where
  | char (c : Char) (quality : Quality)
  /-- There is an argument here, be it empty. -/
  | keep
  /-- One argument ends here and another begins. -/
  | cut
  deriving DecidableEq, Repr

namespace Scope

def value? (scope : Scope) (name : String) : Option (List Char) := scope.bindings.lookup name

/-- The scope with a variable set. -/
def assign (scope : Scope) (name : String) (value : List Char) : Scope :=
  { scope with bindings := (name, value) :: scope.bindings.filter (·.1 ≠ name) }

def digits (n : Nat) : List Char := Nat.toDigits 10 n

/-- The value of a parameter that is not a list. -/
def parameter? (scope : Scope) (name : String) : Option (List Char) :=
  match name with
  | "?" => some (digits scope.status)
  | "$" => some (digits scope.pid)
  | "!" => scope.lastJob.map digits
  | "#" => some (digits scope.arguments.length)
  | "-" => some []
  | "*" | "@" =>
    if scope.arguments.isEmpty then none else some (List.intercalate [' '] scope.arguments)
  | _ =>
    match name.toNat? with
    | some 0 => some scope.name
    | some n => scope.arguments[n - 1]?
    | none => scope.value? name

end Scope

def marks (quality : Quality) (text : List Char) : List Mark :=
  text.map fun c => .char c quality

def resultQuality (isQuoted : Bool) : Quality := if isQuoted then .quoted else .split

/-- The arguments of the script, cut from each other. -/
def argumentMarks (isQuoted : Bool) (arguments : List (List Char)) : List Mark :=
  List.intercalate [.cut] (arguments.map fun argument =>
    (if isQuoted then [.keep] else []) ++ marks (resultQuality isQuoted) argument)

def plainText (text : List Mark) : List Char :=
  text.filterMap fun
    | .char c _ => some c
    | _ => none

/-- The pattern that marks stand for. -/
def wildcards (text : List Mark) : List Wildcard :=
  Wildcard.read 0 (text.filterMap fun
    | .char c quality => some (c, quality ≠ .quoted)
    | _ => none)

/-- The value that a word replaces if it is not there. -/
def present? (value : Option (List Char)) (nullCounts : Bool) : Option (List Char) :=
  value.filter fun text => !(nullCounts && text.isEmpty)

/-- The wording for a parameter that should have a value. -/
def missingText (name : String) (word : List Char) (nullCounts : Bool) : String :=
  if word.isEmpty then s!"{name}: parameter not set" ++ (if nullCounts then " or null" else "")
  else s!"{name}: " ++ String.ofList word

/-- The value of a parameter after the use that is made of it; `word` is the expanded word of that
use. -/
def useParameter (name : String) (use : ParameterUse) (word : List Mark) (isQuoted : Bool) :
    Expansion (List Mark) := do
  let scope ← get
  let value := scope.parameter? name
  let result := marks (resultQuality isQuoted)
  match use with
  | .value =>
    if name = "@" || (name = "*" && !isQuoted) then
      return argumentMarks isQuoted scope.arguments
    else
      if scope.needsValues && value.isNone && name ≠ "*" then throw ⟨missingText name [] false⟩
      return result (value.getD [])
  | .default nullCounts => return (present? value nullCounts).elim word result
  | .alternative nullCounts => return if (present? value nullCounts).isSome then word else []
  | .assign nullCounts =>
    match present? value nullCounts with
    | some text => return result text
    | none =>
      modify fun scope => scope.assign name (plainText word)
      return word
  | .required nullCounts =>
    match present? value nullCounts with
    | some text => return result text
    | none => throw ⟨missingText name (plainText word) nullCounts⟩
  | .length => return result (Scope.digits (value.getD []).length)
  | .dropStart isLongest =>
    return result (Wildcard.dropStart isLongest (wildcards word) (value.getD []))
  | .dropEnd isLongest =>
    return result (Wildcard.dropEnd isLongest (wildcards word) (value.getD []))

/-- Whether the word that belongs to a use of a parameter is needed. -/
def needsWord (scope : Scope) (name : String) : ParameterUse → Bool
  | .value | .length => false
  | .dropStart _ | .dropEnd _ => true
  | .default nullCounts | .assign nullCounts | .required nullCounts =>
    (present? (scope.parameter? name) nullCounts).isNone
  | .alternative nullCounts => (present? (scope.parameter? name) nullCounts).isSome

/-- The wording for an expression without a value. -/
def arithmeticText (fault : ArithmeticFault) (expression : List Char) : String :=
  match fault with
  | .malformed => "arithmetic expression: expecting primary: \"" ++ String.ofList expression ++ "\""
  | .divisionByZero =>
    "arithmetic expression: division by zero: \"" ++ String.ofList expression ++ "\""

/-- The value of an arithmetic expression. -/
def evaluate (expression : List Char) : Expansion (List Char) := do
  match Arithmetic.evaluate (← get).value? expression with
  | .ok n => return (toString n).toList
  | .error fault => throw ⟨arithmeticText fault expression⟩

/-- The marked characters that pieces stand for. Commands that have not been filled in print
nothing. -/
def expandPieces : List Piece → Expansion (List Mark)
  | [] => return []
  | .text chars quality :: rest => do
    let mark : List Mark := if quality = .quoted && chars.isEmpty then [.keep] else []
    return mark ++ marks quality chars ++ (← expandPieces rest)
  | .parameter name use word isQuoted :: rest => do
    let word ← if needsWord (← get) name use then expandPieces word else pure []
    let found ← useParameter name use word isQuoted
    return found ++ (← expandPieces rest)
  | .number expression isQuoted :: rest => do
    let text ← evaluate (plainText (← expandPieces expression))
    return marks (resultQuality isQuoted) text ++ (← expandPieces rest)
  | .output _ _ :: rest => expandPieces rest
termination_by pieces => sizeOf pieces

/-- Whether a character separates the arguments that come out of an expansion. -/
def isSeparator (c : Char) : Bool := c = ' ' || c = '\t' || c = '\n'

/-- Cuts marked characters into arguments; `current` is the argument being put together, if there is
one. -/
def cutArguments : Option (List Char) → List Mark → List (List Char)
  | current, [] => current.toList
  | current, .keep :: rest => cutArguments (some (current.getD [])) rest
  | current, .cut :: rest => current.toList ++ cutArguments none rest
  | current, .char c quality :: rest =>
    if quality = .split && isSeparator c then current.toList ++ cutArguments none rest
    else cutArguments (some (current.getD [] ++ [c])) rest

/-- Whether a word is nothing but all arguments between quotes, which are none. -/
def isEmptyList (scope : Scope) (word : Word) : Bool :=
  match word with
  | [.text [] .quoted, .parameter "@" .value [] true] => scope.arguments.isEmpty
  | _ => false

/-- The arguments that a word stands for. -/
def expandWord (word : Word) : Expansion (List (List Char)) := do
  if isEmptyList (← get) word then return []
  else return cutArguments none (← expandPieces word)

/-- The arguments that words stand for. -/
def expandWords (words : List Word) : Expansion (List (List Char)) := do
  return (← words.mapM expandWord).flatten

def expandText (word : Word) : Expansion (List Char) := do
  return plainText (← expandPieces word)

def expandPattern (word : Word) : Expansion (List Wildcard) := do
  return wildcards (← expandPieces word)

/-! ## What commands print -/

/-- The first command whose output belongs into pieces. -/
def firstOutput? : List Piece → Option Command
  | [] => none
  | .output body _ :: _ => some body
  | .parameter _ _ word _ :: rest => firstOutput? word <|> firstOutput? rest
  | .number expression _ :: rest => firstOutput? expression <|> firstOutput? rest
  | .text _ _ :: rest => firstOutput? rest
termination_by pieces => sizeOf pieces

/-- The pieces with what the first command has printed, if there is such a command. -/
def fill? (text : List Char) : List Piece → Option (List Piece)
  | [] => none
  | .output _ isQuoted :: rest => some (.text text (resultQuality isQuoted) :: rest)
  | .parameter name use word isQuoted :: rest =>
    ((fill? text word).map fun word => .parameter name use word isQuoted :: rest) <|>
      (fill? text rest).map (.parameter name use word isQuoted :: ·)
  | .number expression isQuoted :: rest =>
    ((fill? text expression).map fun filled => .number filled isQuoted :: rest) <|>
      (fill? text rest).map (.number expression isQuoted :: ·)
  | .text chars quality :: rest => (fill? text rest).map (.text chars quality :: ·)
termination_by pieces => sizeOf pieces

/-- The list with the first element changed that can be. -/
def changeFirst? {α : Type} (change : α → Option α) : List α → Option (List α)
  | [] => none
  | a :: rest =>
    ((change a).map (· :: rest)) <|> (changeFirst? change rest).map (a :: ·)

def Redirection.target : Redirection → Word
  | .mk _ _ target => target

def Redirection.fill? (text : List Char) : Redirection → Option Redirection
  | .mk descriptor kind target => (Shell.fill? text target).map (.mk descriptor kind)

namespace Command

/-- The words that are expanded before a command is run. -/
def ownWords : Command → List Word
  | .simple _ assignments words targets =>
    words ++ assignments.map (·.2) ++ targets.map Redirection.target
  | .each _ (some words) _ => words
  | .select subject _ => [subject]
  | .redirected _ _ targets => targets.map Redirection.target
  | _ => []

/-- The first command that has to be run before this one, because its output belongs to a word. -/
def firstOutput? (command : Command) : Option Command :=
  command.ownWords.findSome? Shell.firstOutput?

/-- The command with what the first such command has printed. -/
def fill (text : List Char) : Command → Command
  | .simple line assignments words targets =>
    match changeFirst? (Shell.fill? text) words with
    | some words => .simple line assignments words targets
    | none =>
      let inAssignment := fun (name, value) =>
        (Shell.fill? text value).map fun value => ((name, value) : String × Word)
      match changeFirst? inAssignment assignments with
      | some assignments => .simple line assignments words targets
      | none =>
        .simple line assignments words ((changeFirst? (Redirection.fill? text) targets).getD targets)
  | .each name (some words) body =>
    .each name (some ((changeFirst? (Shell.fill? text) words).getD words)) body
  | .select subject branches => .select ((Shell.fill? text subject).getD subject) branches
  | .redirected line body targets =>
    .redirected line body ((changeFirst? (Redirection.fill? text) targets).getD targets)
  | command => command

end Command

end ThrowawayServer.Shell
