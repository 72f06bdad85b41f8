import ThrowawayServer.Yaml.Token

/-!
# Cutting a YAML text into tokens

Tokens are read from the left. Whether a scalar, a tag or a bracket starts a mapping key shows only at
the colon after it, so its place is remembered as a candidate; when the colon comes, the tokens for a
key are put in at that place. A candidate is given up at the end of its line and 1024 characters after
its start.
-/

set_option autoImplicit false

namespace ThrowawayServer.Yaml

/-- The place of a possible key. -/
structure KeyCandidate where
  /-- Whether nothing but a key can stand there. -/
  isRequired : Bool
  /-- The number of tokens before it. -/
  position : Nat
  line : Nat
  column : Nat

/-- What has been read of a text, and what the next tokens depend on. -/
structure Lexer where
  cursor : Cursor
  tokens : Array Token := #[]
  /-- The columns of the open block collections, the innermost first. -/
  indents : List Nat := []
  /-- Whether a key may start here. -/
  keyAllowed : Bool := true
  /-- The candidate on the current level of brackets. -/
  candidate : Option KeyCandidate := none
  /-- The candidates on the levels around it, one for each open bracket. -/
  outer : List (Option KeyCandidate) := []

namespace Lexer

/-- Whether a bracket is open. -/
def inFlow (lexer : Lexer) : Bool := !lexer.outer.isEmpty

/-- The least column of what belongs to the innermost block collection. -/
def contentColumn (lexer : Lexer) : Nat :=
  match lexer.indents with
  | [] => 0
  | indent :: _ => indent + 1

def push (lexer : Lexer) (token : Token) : Lexer :=
  { lexer with tokens := lexer.tokens.push token }

/-- The lexer with a token put in at a position. -/
def insert (lexer : Lexer) (position : Nat) (token : Token) : Lexer :=
  let tokens := lexer.tokens.toList
  { lexer with tokens := (tokens.take position ++ token :: tokens.drop position).toArray }

/-- Opens a block collection at a column unless one is open there; its start goes to a position. -/
def openBlock (lexer : Lexer) (column position : Nat) (start : Token) : Lexer :=
  if !lexer.inFlow && lexer.contentColumn ≤ column then
    { lexer.insert position start with indents := column :: lexer.indents }
  else lexer

/-- Closes the block collections that `isOver` holds of, from the innermost on. -/
def closeBlocks (lexer : Lexer) (isOver : Nat → Bool) : Lexer :=
  if lexer.inFlow then lexer
  else
    let closed := lexer.indents.takeWhile isOver
    { lexer with
      tokens := lexer.tokens ++ Array.replicate closed.length .blockEnd
      indents := lexer.indents.drop closed.length }

/-- Gives up the candidate of the current level. -/
def dropCandidate (lexer : Lexer) : Except Fault Lexer :=
  if lexer.candidate.any (·.isRequired) then .error .missingColon
  else .ok { lexer with candidate := none }

/-- Makes the current place a candidate if a key may start there. -/
def saveCandidate (lexer : Lexer) : Except Fault Lexer :=
  if lexer.keyAllowed then do
    let lexer ← lexer.dropCandidate
    let column := lexer.cursor.column
    let isRequired := !lexer.inFlow && lexer.indents.head? = some column
    return { lexer with
      candidate := some ⟨isRequired, lexer.tokens.size, lexer.cursor.line, column⟩ }
  else .ok lexer

/-- Whether the colon of a candidate can no longer come. -/
def isStale (cursor : Cursor) (candidate : KeyCandidate) : Bool :=
  candidate.line < cursor.line || candidate.column + 1024 < cursor.column

/-- Gives up the candidates whose colon can no longer come. -/
def dropStale (lexer : Lexer) : Except Fault Lexer :=
  let isStale := isStale lexer.cursor
  let candidates := lexer.candidate :: lexer.outer
  if candidates.any fun candidate => candidate.any fun c => c.isRequired && isStale c then
    .error .missingColon
  else
    .ok { lexer with
      candidate := lexer.candidate.filter (!isStale ·)
      outer := lexer.outer.map fun candidate => candidate.filter (!isStale ·) }

/-- Passes over blanks, comments and line ends. A tab does not count as a blank where a key may start
by its indentation. `fuel` bounds the number of lines. -/
def skipBlanks : Nat → Lexer → Lexer
  | 0, lexer => lexer
  | fuel + 1, lexer =>
    let start :=
      if lexer.cursor.column = 0 && lexer.cursor.rest.head? = some '\uFEFF' then
        lexer.cursor.advance 1
      else lexer.cursor
    let allowsTab := lexer.inFlow || !lexer.keyAllowed
    let cursor := (start.skipWhile fun c => c = ' ' || (allowsTab && c = '\t')).skipComment
    match cursor.takeBreak with
    | ([], cursor) => { lexer with cursor }
    | (_, cursor) =>
      skipBlanks fuel { lexer with cursor, keyAllowed := lexer.keyAllowed || !lexer.inFlow }

def sign (lexer : Lexer) (length : Nat) (token : Token) : Lexer :=
  { lexer with cursor := lexer.cursor.advance length }.push token

/-- The lexer before a sign that belongs to no collection: all blocks are closed. -/
def leaveBlocks (lexer : Lexer) : Except Fault Lexer := do
  let lexer ← (lexer.closeBlocks fun _ => true).dropCandidate
  return { lexer with keyAllowed := false }

def directive (lexer : Lexer) : Except Fault Lexer := do
  let lexer ← lexer.leaveBlocks
  let (token, cursor) ← readDirective (lexer.cursor.advance 1)
  return { lexer with cursor }.push token

def openFlow (lexer : Lexer) (token : Token) : Except Fault Lexer := do
  let lexer ← lexer.saveCandidate
  return { lexer with
    candidate := none, outer := lexer.candidate :: lexer.outer, keyAllowed := true }.sign 1 token

/-- Reads a closing bracket. -/
def closeFlow (lexer : Lexer) (token : Token) : Except Fault Lexer := do
  let lexer ← lexer.dropCandidate
  let lexer := match lexer.outer with
    | [] => lexer
    | candidate :: outer => { lexer with candidate, outer }
  return { lexer with keyAllowed := false }.sign 1 token

/-- Reads the comma between entries in brackets. -/
def flowEntry (lexer : Lexer) : Except Fault Lexer := do
  let lexer ← lexer.dropCandidate
  return { lexer with keyAllowed := true }.sign 1 .flowEntry

/-- Opens the block collection that a sign belongs to, which may stand only where a key may start. -/
def enterBlock (lexer : Lexer) (start : Token) (fault : Fault) : Except Fault Lexer :=
  if lexer.inFlow then .ok lexer
  else if lexer.keyAllowed then
    .ok (lexer.openBlock lexer.cursor.column lexer.tokens.size start)
  else .error fault

/-- Reads the hyphen before an entry of a sequence. -/
def blockEntry (lexer : Lexer) : Except Fault Lexer := do
  let lexer ← lexer.enterBlock .blockSequenceStart .misplacedEntry
  let lexer ← lexer.dropCandidate
  return { lexer with keyAllowed := true }.sign 1 .blockEntry

/-- Reads the question mark before a key. -/
def explicitKey (lexer : Lexer) : Except Fault Lexer := do
  let lexer ← lexer.enterBlock .blockMappingStart .misplacedKey
  let lexer ← lexer.dropCandidate
  return { lexer with keyAllowed := !lexer.inFlow }.sign 1 .key

/-- Reads the colon before a value. If there is a candidate, it becomes the key. -/
def mappingValue (lexer : Lexer) : Except Fault Lexer :=
  match lexer.candidate with
  | some candidate =>
    let lexer := lexer.insert candidate.position .key
    let lexer := lexer.openBlock candidate.column candidate.position .blockMappingStart
    .ok ({ lexer with candidate := none, keyAllowed := false }.sign 1 .value)
  | none => do
    let lexer ← lexer.enterBlock .blockMappingStart .misplacedValue
    return { lexer with keyAllowed := !lexer.inFlow }.sign 1 .value

/-- Reads the sign and name of an anchor or of a reference to one. -/
def named (lexer : Lexer) (token : List Char → Token) : Except Fault Lexer := do
  let lexer ← lexer.saveCandidate
  let (name, cursor) ← readAnchorName (lexer.cursor.advance 1)
  return { lexer with cursor, keyAllowed := false }.push (token name)

def tag (lexer : Lexer) : Except Fault Lexer := do
  let lexer ← lexer.saveCandidate
  let (tag, cursor) ← readTag lexer.inFlow lexer.cursor
  return { lexer with cursor, keyAllowed := false }.push (.tag tag)

def blockScalar (lexer : Lexer) (style : ScalarStyle) : Except Fault Lexer := do
  let lexer ← lexer.dropCandidate
  let scalar ← readBlock (style = .folded) lexer.indents.head? (lexer.cursor.advance 1)
  return { lexer with cursor := scalar.cursor, keyAllowed := true }.push (.scalar style scalar.text)

def quotedScalar (lexer : Lexer) (style : ScalarStyle) : Except Fault Lexer := do
  let lexer ← lexer.saveCandidate
  let scalar ← readQuoted style (lexer.cursor.advance 1)
  return { lexer with
    cursor := scalar.cursor, keyAllowed := false }.push (.scalar style scalar.text)

def plainScalar (lexer : Lexer) : Except Fault Lexer := do
  let lexer ← lexer.saveCandidate
  let scalar ← readPlain lexer.inFlow lexer.contentColumn lexer.cursor
  return { lexer with
    cursor := scalar.cursor, keyAllowed := scalar.endsAtLineStart }.push (.scalar .plain scalar.text)

/-- Whether a plain scalar may start with `c` before `rest`. -/
def startsPlain (inFlow : Bool) (c : Char) (rest : List Char) : Bool :=
  if c = '-' then !(rest.head?.any isSpace)
  else if c = '?' || c = ':' then !inFlow && !startsBlank rest
  else !(isSpace c || isBreak c || ",[]\x7b\x7d#&*!|>\x27\x22%@\x60".toList.contains c)

/-- Reads the token that starts with `c` before `rest`. -/
def token (lexer : Lexer) (c : Char) (rest : List Char) : Except Fault Lexer :=
  let isAlone := startsBlank rest
  if lexer.cursor.column = 0 && c = '%' then lexer.directive
  else if lexer.cursor.column = 0 && startsMarker '-' (c :: rest) then
    lexer.leaveBlocks.map fun lexer => lexer.sign 3 .documentStart
  else if lexer.cursor.column = 0 && startsMarker '.' (c :: rest) then
    lexer.leaveBlocks.map fun lexer => lexer.sign 3 .documentEnd
  else if c = '[' then lexer.openFlow .flowSequenceStart
  else if c = '{' then lexer.openFlow .flowMappingStart
  else if c = ']' then lexer.closeFlow .flowSequenceEnd
  else if c = '}' then lexer.closeFlow .flowMappingEnd
  else if c = ',' then lexer.flowEntry
  else if c = '-' && isAlone then lexer.blockEntry
  else if c = '?' && (lexer.inFlow || isAlone) then lexer.explicitKey
  else if c = ':' && (lexer.inFlow || isAlone) then lexer.mappingValue
  else if c = '*' then lexer.named .reference
  else if c = '&' then lexer.named .anchor
  else if c = '!' then lexer.tag
  else if c = '|' && !lexer.inFlow then lexer.blockScalar .literal
  else if c = '>' && !lexer.inFlow then lexer.blockScalar .folded
  else if c = '\x27' then lexer.quotedScalar .singleQuoted
  else if c = '\x22' then lexer.quotedScalar .doubleQuoted
  else if startsPlain lexer.inFlow c rest then lexer.plainScalar
  else .error .strayCharacter

/-- Reads all tokens that are left. `fuel` bounds their number. -/
def finish : Nat → Lexer → Except Fault (Array Token)
  | 0, lexer => .ok lexer.tokens
  | fuel + 1, lexer => do
    let lexer ← (skipBlanks (lexer.cursor.rest.length + 1) lexer).dropStale
    let column := lexer.cursor.column
    let lexer := lexer.closeBlocks fun indent => column < indent
    match lexer.cursor.rest with
    | [] => return (← lexer.leaveBlocks).tokens
    | c :: rest => finish fuel (← lexer.token c rest)

end Lexer

def tokens (text : List Char) : Except Fault (List Token) :=
  if text.all isAllowed then
    let lexer : Lexer := { cursor := { rest := unifyBreaks text } }
    (lexer.finish (text.length + 1)).map Array.toList
  else .error .forbiddenCharacter

end ThrowawayServer.Yaml
