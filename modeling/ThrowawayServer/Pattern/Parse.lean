import ThrowawayServer.Pattern.Basic

/-!
# Reading patterns

The written form of patterns. Most characters stand for themselves. A dot is any character of a line,
brackets hold sets of characters, parentheses group, a bar separates choices, and the signs for
repetition follow what they repeat; a question mark after such a sign makes it prefer less.
-/

set_option autoImplicit false

namespace ThrowawayServer.Pattern

/-- Why a text is not a pattern. -/
inductive ParseError where
  | unopenedGroup
  | unclosedGroup
  | badGroup
  | repeatedName
  | unclosedSet
  | badRange
  | nothingToRepeat
  | badCount
  | badEscape
  deriving DecidableEq, Repr

/-- What is left of a pattern's text, and what has been seen in it. -/
structure Reading where
  rest : List Char
  names : List String := []
  /-- Whether letters stand for both of their cases. -/
  ignoresCase : Bool := false

/-- A step that reads a pattern's text. -/
abbrev Reader (α : Type) := StateT Reading (Except ParseError) α

namespace Reader

/-- The next character. -/
def peek? : Reader (Option Char) := do return (← get).rest.head?

/-- Passes over the next `n` characters. -/
def skip (n : Nat) : Reader Unit := modify fun reading => { reading with rest := reading.rest.drop n }

/-- Whether the text goes on with `piece`, which is then passed over. -/
def accept (piece : String) : Reader Bool := do
  if piece.toList.isPrefixOf (← get).rest then
    skip piece.length
    return true
  else return false

/-- Fails unless the text goes on with `piece`, which is passed over. -/
def expect (piece : String) (error : ParseError) : Reader Unit := do
  if !(← accept piece) then throw error

/-- The next characters that satisfy `p`. -/
def takeWhile (p : Char → Bool) : Reader (List Char) := do
  let taken := (← get).rest.takeWhile p
  skip taken.length
  return taken

/-- A set as it is meant where letters may stand for both of their cases. -/
def meant (set : CharSet) : Reader CharSet := do
  return if (← get).ignoresCase then .anyCase set else set

/-! ## Escapes and sets -/

/-- What a letter after a backslash stands for. -/
def letterEscapes : List (Char × CharSet) :=
  let single (c : Char) : CharSet := .range c c
  [('d', .digit), ('D', .allBut .digit), ('s', .blank), ('S', .allBut .blank),
    ('a', single '\x07'), ('f', single '\x0C'), ('t', single '\t'), ('n', single '\n'),
    ('r', single '\r'), ('v', single '\x0B')]

/-- Whether a backslash makes a character stand for itself. -/
def isEscapable (c : Char) : Bool :=
  c.toNat < 0x80 && !c.isAlphanum && c ≠ '<' && c ≠ '>'

/-- What stands after a backslash. -/
def escape : Reader CharSet := do
  match ← peek? with
  | none => throw .badEscape
  | some c =>
    skip 1
    match letterEscapes.lookup c with
    | some set => return set
    | none => if isEscapable c then return .range c c else throw .badEscape

/-- One character or escape inside brackets. -/
def setItem : Reader CharSet := do
  if ← accept "\\" then escape
  else
    match ← peek? with
    | none => throw .unclosedSet
    | some c => skip 1; return .range c c

/-- Whether a hyphen that comes next stands between the ends of a range. -/
def isRangeNext : Reader Bool := do
  match (← get).rest with
  | '-' :: c :: _ => return c ≠ ']' && c ≠ '-'
  | ['-'] => throw .unclosedSet
  | _ => return false

/-- One character or escape inside brackets, or a range between two characters. -/
def setRange : Reader CharSet := do
  let first ← setItem
  if ← isRangeNext then
    skip 1
    match first, ← setItem with
    | .range first last, .range first' last' =>
      if first = last && first' = last' && first ≤ first' then return .range first first'
      else throw .badRange
    | _, _ => throw .badRange
  else return first

mutual

/-- A set, of which the opening bracket has been read. A bracket that closes nothing and a hyphen may
stand first. `fuel` bounds the number of items. -/
def bracketSet : Nat → Reader CharSet
  | 0 => throw .unclosedSet
  | fuel + 1 => do
    let isNegated ← accept "^"
    let hyphens ← takeWhile (· = '-')
    let start : CharSet := if hyphens.isEmpty then .nothing else .range '-' '-'
    let start ←
      if hyphens.isEmpty && (← accept "]") then pure (CharSet.range ']' ']') else pure start
    let items ← meant (← setItems fuel start)
    return if isNegated then .allBut items else items

/-- The items of a set and the closing bracket. -/
def setItems : Nat → CharSet → Reader CharSet
  | 0, _ => throw .unclosedSet
  | fuel + 1, items => do
    if ← accept "]" then return items
    else if ← accept "[" then setItems fuel (.either items (← bracketSet fuel))
    else setItems fuel (.either items (← setRange))

end

/-! ## Repetition -/

/-- `n` pieces one after the other. -/
def times (inner : Pattern) : Nat → Pattern
  | 0 => .empty
  | 1 => inner
  | n + 1 => .sequence inner (times inner n)

/-- At most `n` pieces. -/
def atMost (inner : Pattern) (isGreedy : Bool) : Nat → Pattern
  | 0 => .empty
  | 1 => .optional inner isGreedy
  | n + 1 => .optional (.sequence inner (atMost inner isGreedy n)) isGreedy

/-- At least `n` pieces. -/
def atLeast (inner : Pattern) (isGreedy : Bool) : Nat → Pattern
  | 0 => many inner isGreedy
  | 1 => .repeated inner isGreedy
  | n + 1 => .sequence (times inner n) (.repeated inner isGreedy)

/-- A count in decimal digits. -/
def count : Reader Nat := do
  let digits ← takeWhile Char.isDigit
  let value := digits.foldl (fun value digit => value * 10 + (digit.toNat - '0'.toNat)) 0
  if digits.isEmpty || value ≥ UInt32.size then throw .badCount else return value

/-- Whether more pieces are preferred, by the question mark that may follow. -/
def greed : Reader Bool := do return !(← accept "?")

/-- Counts in braces, of which the opening one has been read. -/
def counted (inner : Pattern) : Reader Pattern := do
  let least ← count
  if ← accept "," then
    if ← accept "\x7d" then return atLeast inner (← greed) least
    else
      let most ← count
      expect "\x7d" .badCount
      if most < least then throw .badCount
      let rest := atMost inner (← greed) (most - least)
      return if least = 0 then rest else .sequence (times inner least) rest
  else
    expect "\x7d" .badCount
    let _ ← greed
    return times inner least

/-- A pattern with the signs for repetition that follow it. `fuel` bounds their number. -/
def withRepetition : Nat → Pattern → Reader Pattern
  | 0, pattern => return pattern
  | fuel + 1, pattern => do
    match ← peek? with
    | some '*' => skip 1; withRepetition fuel (many pattern (← greed))
    | some '+' => skip 1; withRepetition fuel (.repeated pattern (← greed))
    | some '?' => skip 1; withRepetition fuel (.optional pattern (← greed))
    | some '{' => skip 1; withRepetition fuel (← counted pattern)
    | _ => return pattern

/-! ## Groups, sequences and choices -/

/-- Whether a character may start the name of a group. -/
def startsName (c : Char) : Bool := c = '_' || c.isAlpha || c.toNat ≥ 0x80

/-- Whether a character may stand in the name of a group. -/
def isNameChar (c : Char) : Bool := startsName c || c.isDigit || c = '.' || c = '[' || c = ']'

/-- The name of a group up to the bracket that closes it. -/
def groupName : Reader String := do
  let name ← takeWhile isNameChar
  expect ">" .badGroup
  let reading ← get
  let text := String.ofList name
  if !name.head?.any startsName then throw .badGroup
  if reading.names.contains text then throw .repeatedName
  set { reading with names := text :: reading.names }
  return text

/-- Letters that switch cases together, or apart after a hyphen. -/
def flags : Nat → (isOn : Bool) → Reader Unit
  | 0, _ => throw .badGroup
  | fuel + 1, isOn => do
    if ← accept "i" then
      modify fun reading => { reading with ignoresCase := isOn }
      flags fuel isOn
    else if isOn && (← accept "-") then
      if (← peek?) = some 'i' then flags fuel false else throw .badGroup
    else return ()

mutual

/-- Choices between sequences up to the end of the text or a closing parenthesis. `fuel` bounds the
depth and the number of parts. -/
def choices : Nat → Reader Pattern
  | 0 => throw .unclosedGroup
  | fuel + 1 => do
    let first ← parts fuel
    if ← accept "|" then return .choice first (← choices fuel) else return first

/-- Parts one after the other. -/
def parts : Nat → Reader Pattern
  | 0 => throw .unclosedGroup
  | fuel + 1 => do
    match ← peek? with
    | none | some '|' | some ')' => return .empty
    | some _ =>
      let first ← part fuel
      match ← peek? with
      | none | some '|' | some ')' => return first
      | some _ => return .sequence first (← parts fuel)

/-- One part with the signs for repetition that follow it. -/
def part : Nat → Reader Pattern
  | 0 => throw .unclosedGroup
  | fuel + 1 => do
    let repetition (pattern : Pattern) : Reader Pattern := do
      withRepetition (← get).rest.length pattern
    if ← accept "(" then
      match ← group fuel with
      | some pattern => repetition pattern
      | none => parts fuel
    else if ← accept "[" then repetition (.char (← bracketSet fuel))
    else if ← accept "." then repetition anyChar
    else if ← accept "^" then repetition .textStart
    else if ← accept "$" then repetition .textEnd
    else if ← accept "\\" then repetition (.char (← meant (← escape)))
    else
      match ← peek? with
      | none => return .empty
      | some c =>
        if "*+?\x7b".toList.contains c then throw .nothingToRepeat
        skip 1
        repetition (.char (← meant (.range c c)))

/-- What is inside parentheses, of which the opening one has been read; none for letters that say how
the rest of the group around is meant. -/
def group : Nat → Reader (Option Pattern)
  | 0 => throw .unclosedGroup
  | fuel + 1 => do
    let outer := (← get).ignoresCase
    let inside : Reader Pattern := do
      let pattern ← choices fuel
      expect ")" .unclosedGroup
      modify fun reading => { reading with ignoresCase := outer }
      return pattern
    if (← accept "?P<") || (← accept "?<") then
      let name ← groupName
      return some (.named name (← inside))
    else if ← accept "?" then
      let isEmpty := (← peek?) = some ')'
      flags ((← get).rest.length + 1) true
      if ← accept ":" then return some (← inside)
      else
        expect ")" .badGroup
        if isEmpty then throw .nothingToRepeat else return none
    else return some (← inside)

end

end Reader

def parse (text : String) : Except ParseError Pattern := do
  let chars := text.toList
  let (pattern, reading) ← (Reader.choices (4 * chars.length + 4)).run { rest := chars }
  if reading.rest.isEmpty then return pattern else throw .unopenedGroup

end ThrowawayServer.Pattern
