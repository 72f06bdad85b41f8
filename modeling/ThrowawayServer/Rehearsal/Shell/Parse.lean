import ThrowawayServer.Rehearsal.Shell.Syntax
import ThrowawayServer.Text.Numeral
import ThrowawayServer.Text.Split

/-!
# Reading shell scripts

A script is read one unit at a time: what stands on a line, and the lines after it that an open
construct takes along. Units are run before the next one is read, so a fault further down does not
keep the script from starting.
-/

set_option autoImplicit false

namespace ThrowawayServer.Shell

/-- Why a script cannot be read, with the line where that shows. -/
structure SyntaxFault where
  line : Nat
  text : String
  deriving DecidableEq, Repr

abbrev Reader (α : Type) := StateT Script (Except SyntaxFault) α

namespace Reader

/-! ## Characters -/

/-- Fails at the present line. -/
def fail {α : Type} (text : String) : Reader α := do
  throw { line := (← get).line, text }

/-- Passes over the next `n` characters. -/
def skip (n : Nat) : Reader Unit := modify fun script => { script with rest := script.rest.drop n }

/-- Whether the script goes on with this text. -/
def sees (text : String) : Reader Bool := do
  return text.toList.isPrefixOf (← get).rest

/-- Whether the script goes on with this text, which is then passed over. -/
def accept (text : String) : Reader Bool := do
  if ← sees text then
    skip text.length
    return true
  else return false

/-- The next characters that satisfy `p`. -/
def takeWhile (p : Char → Bool) : Reader (List Char) := do
  let taken := (← get).rest.takeWhile p
  skip taken.length
  return taken

/-- What follows blanks, joined lines and a comment. -/
def afterBlanks : List Char → List Char
  | ' ' :: rest | '\t' :: rest => afterBlanks rest
  | '\\' :: '\n' :: rest => afterBlanks rest
  | '#' :: rest => rest.dropWhile (· ≠ '\n')
  | rest => rest

/-- Passes over blanks, joined lines and a comment. -/
def skipBlanks : Reader Unit := modify fun script => { script with rest := afterBlanks script.rest }

/-- What follows blanks, comments and the ends of lines. -/
def afterLines : Nat → List Char → List Char
  | 0, text => text
  | fuel + 1, text =>
    match afterBlanks text with
    | '\n' :: rest => afterLines fuel rest
    | rest => rest

/-- Passes over blanks, comments and the ends of lines. -/
def skipLines : Reader Unit :=
  modify fun script => { script with rest := afterLines script.rest.length script.rest }

/-- Whether a character ends a word that is not quoted. -/
def endsWord (c : Char) : Bool := " \t\n;&|<>()".toList.contains c

/-- Whether a name can begin with a character. -/
def startsName (c : Char) : Bool := c.isAlpha || c = '_'

/-- Whether a name can hold a character. -/
def isNameChar (c : Char) : Bool := c.isAlphanum || c = '_'

/-! ## Reserved words -/

/-- The words with a meaning of their own at the start of a command. -/
def reserved : List String :=
  ["if", "then", "elif", "else", "fi", "while", "until", "do", "done", "for", "case", "esac", "in",
    "!", "\x7b", "\x7d"]

/-- The words that a list of commands ends at. -/
def closers : List String := ["then", "elif", "else", "fi", "do", "done", "esac", "\x7d"]

/-- The plain word that the script goes on with. -/
def nextWord : Reader String := do
  return String.ofList ((← get).rest.takeWhile fun c => !endsWord c)

/-- What the script goes on with, as it is named in a fault. -/
def nextName : Reader String := do
  match (← get).rest with
  | [] => return "end of file"
  | '\n' :: _ => return "newline"
  | ';' :: ';' :: _ => return "\";;\""
  | '&' :: '&' :: _ => return "\"&&\""
  | '|' :: '|' :: _ => return "\"||\""
  | c :: _ =>
    if "<>".toList.contains c then return "redirection"
    else if endsWord c then return s!"\"{c}\""
    else
      let word ← nextWord
      return if reserved.contains word then s!"\"{word}\"" else "word"

/-- Fails because something else should follow. -/
def unexpected {α : Type} (expected : Option String) : Reader α := do
  let found ← nextName
  let hint := expected.elim "" fun word => s!" (expecting \"{word}\")"
  fail s!"Syntax error: {found} unexpected{hint}"

/-- Passes over a reserved word, which has to follow. -/
def expectWord (word : String) : Reader Unit := do
  skipLines
  if (← nextWord) = word then skip word.length else unexpected (some word)

/-- Passes over a text, which has to follow. -/
def expect (text : String) : Reader Unit := do
  if !(← accept text) then unexpected (some text)

/-! ## Quoted and nested texts -/

/-- The text up to a closing quote, and what follows it. -/
def untilQuote (quote : Char) : Reader (List Char) := do
  match Text.splitFirst quote (← get).rest with
  | none => fail "Syntax error: Unterminated quoted string"
  | some (inside, rest) =>
    modify fun script => { script with rest }
    return inside

/-- The text of a command between backquotes, and what follows it. -/
def backquoted : List Char → Option (List Char × List Char)
  | [] => none
  | '`' :: rest => some ([], rest)
  | '\\' :: c :: rest =>
    let kept := if c = '`' || c = '\\' || c = '$' then [c] else ['\\', c]
    (backquoted rest).map fun (inside, after) => (kept ++ inside, after)
  | c :: rest => (backquoted rest).map fun (inside, after) => (c :: inside, after)

/-- The text of an arithmetic expression, and what follows the two parentheses at its end. -/
def arithmetic : Nat → List Char → Option (List Char × List Char)
  | 0, ')' :: ')' :: rest => some ([], rest)
  | _, [] => none
  | depth, c :: rest =>
    let next := if c = '(' then depth + 1 else if c = ')' then depth - 1 else depth
    (arithmetic next rest).map fun (inside, after) => (c :: inside, after)

/-- Reads a text of its own from its start to its end. -/
def within {α : Type} (text : List Char) (reader : Reader α) : Reader α := do
  let outer ← get
  set { rest := text, lastLine := outer.line + text.count '\n' : Script }
  let result ← reader
  set outer
  return result

/-- The use of a parameter that stands between its name and the word. -/
def parameterUse : Reader ParameterUse := do
  let nullCounts ← accept ":"
  if ← accept "-" then return .default nullCounts
  if ← accept "=" then return .assign nullCounts
  if ← accept "+" then return .alternative nullCounts
  if ← accept "?" then return .required nullCounts
  if ← accept "##" then return .dropStart true
  if ← accept "#" then return .dropStart false
  if ← accept "%%" then return .dropEnd true
  if ← accept "%" then return .dropEnd false
  if nullCounts then fail "Syntax error: Bad substitution"
  return .value

def parameterName : Reader String := do
  match (← get).rest with
  | c :: _ =>
    if startsName c then return String.ofList (← takeWhile isNameChar)
    if c.isDigit then return String.ofList (← takeWhile Char.isDigit)
    if "?$!#*@-".toList.contains c then
      skip 1
      return String.singleton c
    fail "Syntax error: Bad substitution"
  | [] => fail "Syntax error: Missing '\x7d'"

/-- The lines of a text that a redirection brings along, and what follows its last line. -/
def documentLines (stripsTabs : Bool) (ending : List Char) :
    List (List Char) → List (List Char) × List (List Char)
  | [] => ([], [])
  | line :: rest =>
    let line := if stripsTabs then line.dropWhile (· = '\t') else line
    if line = ending then ([], rest)
    else
      let (inside, after) := documentLines stripsTabs ending rest
      (line :: inside, after)

/-- Takes the text that a redirection brings along out of the lines after the present one. -/
def takeDocument (stripsTabs : Bool) (ending : List Char) : Reader (List Char) := do
  let script ← get
  match Text.splitFirst '\n' script.rest with
  | none => return []
  | some (line, below) =>
    let (inside, after) := documentLines stripsTabs ending (Text.splitAll '\n' below)
    let rest := line ++ '\n' :: List.intercalate ['\n'] after
    set { rest, lastLine := script.lastLine - (script.rest.count '\n' - rest.count '\n') : Script }
    return inside.flatMap (· ++ ['\n'])

/-! ## Words and commands -/

/-- Where the pieces of a word are read. -/
inductive PieceContext where
  | word
  /-- Between double quotes. -/
  | quotes
  /-- Up to a closing brace. -/
  | braces (isQuoted : Bool)
  /-- The text of a redirection or an expression, up to its end. -/
  | document
  deriving DecidableEq, Repr

def PieceContext.isQuoted : PieceContext → Bool
  | .word => false
  | .quotes | .document => true
  | .braces isQuoted => isQuoted

/-- Whether pieces end before a character. -/
def PieceContext.endsAt (context : PieceContext) (c : Char) : Bool :=
  match context with
  | .word => endsWord c
  | .quotes => c = '\x22'
  | .braces _ => c = '\x7d'
  | .document => false

/-- The characters that a backslash between double quotes takes the meaning from. -/
def isEscapedInQuotes (c : Char) : Bool := "$\x60\x22\\".toList.contains c

/-- The number of a descriptor and the sign of a redirection that the script goes on with. -/
def redirectionSign : Reader (Option (Nat × String)) := do
  let text := (← get).rest
  let digits := text.takeWhile Char.isDigit
  let signs := ["<<-", "<<", "<&", "<>", "<", ">>", ">&", ">|", ">"]
  match signs.find? fun sign => sign.toList.isPrefixOf (text.drop digits.length) with
  | none => return none
  | some sign =>
    skip (digits.length + sign.length)
    let usual := if sign.startsWith "<" then 0 else 1
    return some ((Text.readDigits 10 1000 0 digits).toOption.filter (fun _ => !digits.isEmpty) |>.getD usual,
      sign)

/-- The name of a variable that the script goes on to assign. -/
def assignedName : Reader (Option String) := do
  let text := (← get).rest
  let name := text.takeWhile isNameChar
  match name, text.drop name.length with
  | first :: _, '=' :: _ =>
    if startsName first then
      skip (name.length + 1)
      return some (String.ofList name)
    else return none
  | _, _ => return none

/-- The name of a function that the script goes on to define. -/
def definedName : Reader (Option String) := do
  let text := (← get).rest
  let name := text.takeWhile isNameChar
  match name, (text.drop name.length).dropWhile (· = ' ') with
  | first :: _, '(' :: after =>
    match after.dropWhile (· = ' ') with
    | ')' :: rest =>
      if startsName first && !reserved.contains (String.ofList name) then
        modify fun script => { script with rest }
        return some (String.ofList name)
      else return none
    | _ => return none
  | _, _ => return none

mutual

/-- The pieces of a word. `fuel` bounds the depth of the reading. -/
def pieces : Nat → PieceContext → Reader (List Piece)
  | 0, _ => fail "Syntax error: Too deeply nested"
  | fuel + 1, context => do
    let quality : Quality := if context.isQuoted then .quoted else .bare
    match (← get).rest with
    | [] => return []
    | '\\' :: '\n' :: _ =>
      skip 2
      pieces fuel context
    | '\\' :: c :: _ =>
      skip 2
      let text := if context.isQuoted && !isEscapedInQuotes c then ['\\', c] else [c]
      return .text text .quoted :: (← pieces fuel context)
    | '$' :: _ =>
      skip 1
      let piece ← dollar fuel context.isQuoted
      return piece :: (← pieces fuel context)
    | '`' :: rest =>
      match backquoted rest with
      | none => fail "Syntax error: EOF in backquote substitution"
      | some (inside, after) =>
        let body ← within inside (commands fuel)
        modify fun script => { script with rest := after }
        return .output body context.isQuoted :: (← pieces fuel context)
    | c :: _ =>
      if context.endsAt c then return []
      skip 1
      if c = '\x27' && !context.isQuoted then
        let inside ← untilQuote '\x27'
        return .text inside .quoted :: (← pieces fuel context)
      else if c = '\x22' && context ≠ .document then
        let inside ← pieces fuel .quotes
        if !(← accept "\x22") then fail "Syntax error: Unterminated quoted string"
        return .text [] .quoted :: inside ++ (← pieces fuel context)
      else return .text [c] quality :: (← pieces fuel context)

/-- What follows a dollar sign. -/
def dollar : Nat → Bool → Reader Piece
  | 0, _ => fail "Syntax error: Too deeply nested"
  | fuel + 1, isQuoted => do
    match (← get).rest with
    | '(' :: '(' :: rest =>
      match arithmetic 0 rest with
      | some (inside, after) =>
        let expression ← within inside (pieces fuel .document)
        modify fun script => { script with rest := after }
        return .number expression isQuoted
      | none => fail "Syntax error: Missing '))'"
    | '(' :: _ =>
      skip 1
      let body ← commands fuel
      expect ")"
      return .output body isQuoted
    | '\x7b' :: '#' :: c :: _ =>
      if isNameChar c || c = '*' || c = '@' then
        skip 2
        let name ← parameterName
        expect "\x7d"
        return .parameter name .length [] isQuoted
      else
        skip 2
        expect "\x7d"
        return .parameter "#" .value [] isQuoted
    | '\x7b' :: _ =>
      skip 1
      let name ← parameterName
      let use ← parameterUse
      let word ← pieces fuel (.braces isQuoted)
      if !(← accept "\x7d") then fail "Syntax error: Missing '\x7d'"
      return .parameter name use word isQuoted
    | c :: _ =>
      if startsName c then
        return .parameter (String.ofList (← takeWhile isNameChar)) .value [] isQuoted
      else if c.isDigit || "?$!#*@-".toList.contains c then
        skip 1
        return .parameter (String.singleton c) .value [] isQuoted
      else return .text ['$'] (if isQuoted then .quoted else .bare)
    | [] => return .text ['$'] (if isQuoted then .quoted else .bare)

/-- The pieces of a word, of which a tilde at the start stands for the home directory. -/
def wordPieces : Nat → Reader (List Piece)
  | 0 => fail "Syntax error: Too deeply nested"
  | fuel + 1 => do
    let isHome := match (← get).rest with
      | '~' :: c :: _ => c = '/' || endsWord c
      | ['~'] => true
      | _ => false
    if isHome then
      skip 1
      return .parameter "HOME" .value [] true :: (← pieces fuel .word)
    else pieces fuel .word

def word : Nat → Reader Word
  | 0 => fail "Syntax error: Too deeply nested"
  | fuel + 1 => do
    skipBlanks
    match (← get).rest with
    | [] => unexpected none
    | c :: _ => if endsWord c then unexpected none else wordPieces fuel

/-- What follows the sign of a redirection. -/
def redirection : Nat → Nat → String → Reader Redirection
  | 0, _, _ => fail "Syntax error: Too deeply nested"
  | fuel + 1, descriptor, sign => do
    let target ← word fuel
    match sign with
    | "<" | "<>" => return .mk descriptor .read target
    | ">>" => return .mk descriptor .append target
    | "<&" | ">&" => return .mk descriptor .duplicate target
    | "<<" | "<<-" =>
      let isPlain := target.all fun
        | .text _ .quoted => false
        | _ => true
      let ending := target.flatMap fun
        | .text chars _ => chars
        | _ => []
      let text ← takeDocument (sign = "<<-") ending
      let body ← if isPlain then within text (pieces fuel .document) else pure [.text text .quoted]
      return .mk descriptor .document body
    | _ => return .mk descriptor .write target

/-- The redirections that follow a command. -/
def redirections : Nat → Reader (List Redirection)
  | 0 => fail "Syntax error: Too deeply nested"
  | fuel + 1 => do
    skipBlanks
    match ← redirectionSign with
    | none => return []
    | some (descriptor, sign) =>
      let first ← redirection fuel descriptor sign
      return first :: (← redirections fuel)

/-- The rest of a simple command that has begun with the given parts. -/
def simple : Nat → Nat → List (String × Word) → List Word → List Redirection → Reader Command
  | 0, _, _, _, _ => fail "Syntax error: Too deeply nested"
  | fuel + 1, line, assignments, words, targets => do
    skipBlanks
    match ← redirectionSign with
    | some (descriptor, sign) =>
      let next ← redirection fuel descriptor sign
      simple fuel line assignments words (targets ++ [next])
    | none =>
      let name ← if words.isEmpty then assignedName else pure none
      match name, (← get).rest with
      | some name, _ =>
        let value ← wordPieces fuel
        simple fuel line (assignments ++ [(name, value)]) words targets
      | none, [] => return .simple line assignments words targets
      | none, c :: _ =>
        if endsWord c then
          if c = '(' then unexpected none
          return .simple line assignments words targets
        else
          let next ← wordPieces fuel
          simple fuel line assignments (words ++ [next]) targets

/-- The words that a loop runs over. -/
def loopWords : Nat → Reader (List Word)
  | 0 => fail "Syntax error: Too deeply nested"
  | fuel + 1 => do
    skipBlanks
    match (← get).rest with
    | [] => return []
    | c :: _ =>
      if endsWord c then return []
      let first ← wordPieces fuel
      return first :: (← loopWords fuel)

/-- The patterns of a branch, between bars. -/
def patterns : Nat → Reader (List Word)
  | 0 => fail "Syntax error: Too deeply nested"
  | fuel + 1 => do
    let first ← word fuel
    skipBlanks
    if ← accept "|" then return first :: (← patterns fuel) else return [first]

def branches : Nat → Reader (List (List Word × Command))
  | 0 => fail "Syntax error: Too deeply nested"
  | fuel + 1 => do
    skipLines
    if (← nextWord) = "esac" then
      skip 4
      return []
    let _ ← accept "("
    let choices ← patterns fuel
    skipBlanks
    expect ")"
    let body ← commands fuel
    skipLines
    if ← accept ";;" then return (choices, body) :: (← branches fuel)
    else
      expectWord "esac"
      return [(choices, body)]

/-- What follows the condition of a choice. -/
def afterCondition : Nat → Command → Reader Command
  | 0, _ => fail "Syntax error: Too deeply nested"
  | fuel + 1, condition => do
    expectWord "then"
    let yes ← block fuel
    let next ← nextWord
    if next = "elif" then
      skip 4
      let inner ← block fuel
      return .choose condition yes (← afterCondition fuel inner)
    else if next = "else" then
      skip 4
      let no ← block fuel
      expectWord "fi"
      return .choose condition yes no
    else
      expectWord "fi"
      return .choose condition yes .nothing

/-- A command that begins with a reserved word or a parenthesis, if one follows. -/
def compound : Nat → Reader (Option Command)
  | 0 => fail "Syntax error: Too deeply nested"
  | fuel + 1 => do
    if ← accept "(" then
      let body ← block fuel
      expect ")"
      return some (.subshell body)
    match ← nextWord with
    | "if" =>
      skip 2
      let condition ← block fuel
      return some (← afterCondition fuel condition)
    | "while" | "until" =>
      let isUntil ← sees "until"
      skip 5
      let condition ← block fuel
      expectWord "do"
      let body ← block fuel
      expectWord "done"
      return some (.loop isUntil condition body)
    | "for" =>
      skip 3
      skipBlanks
      let name := String.ofList (← takeWhile isNameChar)
      if name.isEmpty then fail "Syntax error: Bad for loop variable"
      skipLines
      let words ← if (← nextWord) = "in" then do
          skip 2
          pure (some (← loopWords fuel))
        else pure none
      skipBlanks
      let _ ← accept ";"
      expectWord "do"
      let body ← block fuel
      expectWord "done"
      return some (.each name words body)
    | "case" =>
      skip 4
      let subject ← word fuel
      expectWord "in"
      return some (.select subject (← branches fuel))
    | "\x7b" =>
      skip 1
      let body ← block fuel
      expectWord "\x7d"
      return some body
    | _ => return none

def command : Nat → Reader Command
  | 0 => fail "Syntax error: Too deeply nested"
  | fuel + 1 => do
    skipBlanks
    let line := (← get).line
    match ← compound fuel with
    | some body =>
      let targets ← redirections fuel
      return if targets.isEmpty then body else .redirected line body targets
    | none =>
      match ← definedName with
      | some name =>
        skipLines
        return .define name (← command fuel)
      | none =>
        let start ← get
        if (reserved.erase "in").contains (← nextWord) then unexpected none
        let result ← simple fuel line [] [] []
        if (← get).rest.length = start.rest.length then unexpected none
        return result

/-- Commands of which each reads what the one before it prints. -/
def pipeline : Nat → Reader Command
  | 0 => fail "Syntax error: Too deeply nested"
  | fuel + 1 => do
    skipBlanks
    if (← nextWord) = "!" then
      skip 1
      return .negate (← pipeline fuel)
    let first ← command fuel
    skipBlanks
    if ← sees "||" then return first
    if ← accept "|" then
      skipLines
      return .pipe first (← pipeline fuel)
    return first

/-- What follows a pipeline: others that are run depending on how it ends. -/
def chain : Nat → Command → Reader Command
  | 0, _ => fail "Syntax error: Too deeply nested"
  | fuel + 1, first => do
    skipBlanks
    if ← accept "&&" then
      skipLines
      chain fuel (.both first (← pipeline fuel))
    else if ← accept "||" then
      skipLines
      chain fuel (.either first (← pipeline fuel))
    else return first

/-- A chain of pipelines and the sign after it. -/
def item : Nat → Reader Command
  | 0 => fail "Syntax error: Too deeply nested"
  | fuel + 1 => do
    let body ← chain fuel (← pipeline fuel)
    skipBlanks
    if ← sees ";;" then return body
    else if ← accept ";" then return body
    else if ← accept "&" then return .background body
    else return body

/-- Commands up to a word or sign that ends their list. -/
def commands : Nat → Reader Command
  | 0 => fail "Syntax error: Too deeply nested"
  | fuel + 1 => do
    skipLines
    match (← get).rest with
    | [] | ')' :: _ => return .nothing
    | ';' :: ';' :: _ => return .nothing
    | _ =>
      if closers.contains (← nextWord) then return .nothing
      let first ← item fuel
      match ← commands fuel with
      | .nothing => return first
      | rest => return .sequence first rest

/-- Commands of which there has to be one at least. -/
def block : Nat → Reader Command
  | 0 => fail "Syntax error: Too deeply nested"
  | fuel + 1 => do
    match ← commands fuel with
    | .nothing => unexpected none
    | body => return body

end

/-- The commands up to the end of the line. -/
def unit : Nat → Reader Command
  | 0 => fail "Syntax error: Too deeply nested"
  | fuel + 1 => do
    let first ← item (10 * fuel)
    skipBlanks
    match (← get).rest with
    | [] | '\n' :: _ => return first
    | c :: _ =>
      if c = ')' || c = ';' then unexpected none
      return .sequence first (← unit fuel)

end Reader

/-- The next unit of a script, and the script after it; none at the end of the script. -/
def Script.next? (script : Script) : Except SyntaxFault (Option (Command × Script)) :=
  let reading : Reader (Option Command) := do
    Reader.skipLines
    if (← get).rest.isEmpty then return none
    else return some (← Reader.unit (script.rest.length + 10))
  (reading.run script).map fun (found, rest) => found.map fun command => (command, rest)

end ThrowawayServer.Shell
