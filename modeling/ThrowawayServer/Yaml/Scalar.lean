import ThrowawayServer.Text.Numeral
import ThrowawayServer.Yaml.Cursor

/-!
# Scalars

The texts of a YAML document in their five styles. Plain and quoted scalars run over several lines: a
single line break in them stands for a blank and further ones for themselves. A literal block keeps
its line breaks and a folded block joins lines that start with no blank.
-/

set_option autoImplicit false

namespace ThrowawayServer.Yaml

inductive ScalarStyle where
  | plain
  | singleQuoted
  | doubleQuoted
  | literal
  | folded
  deriving DecidableEq, Repr

structure ScalarText where
  text : List Char
  /-- Whether the scalar was left at the start of a line. -/
  endsAtLineStart : Bool
  cursor : Cursor

/-! ## Gaps between words -/

/-- Blanks and line breaks between two words. -/
structure Gap where
  /-- The blanks before the first line break. -/
  blanks : List Char
  breaks : List Char
  /-- Whether a line break was passed. -/
  isBroken : Bool
  cursor : Cursor

/-- What a gap stands for: its blanks, or its line breaks with a leading feed folded. -/
def Gap.text (gap : Gap) : List Char :=
  if gap.isBroken then
    match gap.breaks with
    | ['\n'] => [' ']
    | '\n' :: more => more
    | breaks => breaks
  else gap.blanks

/-- The gap that starts here. Blanks after a line break are dropped; before column `indent` a tab
cannot be one of them. -/
def readGap (indent : Nat) (isBroken : Bool) (blanks breaks : List Char) :
    List Char → Nat → Nat → Except Fault Gap
  | [], line, column => .ok ⟨blanks, breaks, isBroken, ⟨[], line, column⟩⟩
  | c :: rest, line, column =>
    if isBreak c then readGap indent true blanks (breaks ++ [c]) rest (line + 1) 0
    else if isSpace c then
      if !isBroken then readGap indent isBroken (blanks ++ [c]) breaks rest line (column + 1)
      else if c = '\t' && column < indent then .error .tabIndentation
      else readGap indent isBroken blanks breaks rest line (column + 1)
    else .ok ⟨blanks, breaks, isBroken, ⟨c :: rest, line, column⟩⟩

def Cursor.readGap (cursor : Cursor) (indent : Nat) : Except Fault Gap :=
  Yaml.readGap indent false [] [] cursor.rest cursor.line cursor.column

/-! ## Plain scalars -/

/-- The brackets and the comma, which end plain scalars between brackets. -/
def isFlowIndicator (c : Char) : Bool :=
  c = ',' || c = '[' || c = ']' || c = '{' || c = '}'

/-- Whether a colon inside brackets stands before something it cannot stand before. -/
def isStrayColon (rest : List Char) : Bool :=
  rest.head?.any fun c => isFlowIndicator c || c = '?'

/-- A word of a plain scalar and what follows it. -/
def plainWord (inFlow : Bool) : List Char → Except Fault (List Char × List Char)
  | [] => .ok ([], [])
  | c :: rest =>
    if isSpace c || isBreak c then .ok ([], c :: rest)
    else if inFlow && c = ':' && isStrayColon rest then .error .strayColon
    else if (c = ':' && startsBlank rest) || (inFlow && isFlowIndicator c) then .ok ([], c :: rest)
    else do
      let (word, rest) ← plainWord inFlow rest
      return (c :: word, rest)

/-- The rest of a plain scalar: `text` has been read, with `gap` after it. `fuel` bounds the number of
words. -/
def plainWords (inFlow : Bool) (indent : Nat) :
    Nat → List Char → Gap → Except Fault ScalarText
  | 0, text, gap => .ok ⟨text, gap.isBroken, gap.cursor⟩
  | fuel + 1, text, gap =>
    let ended : ScalarText := ⟨text, gap.isBroken, gap.cursor⟩
    if gap.cursor.atMarker || gap.cursor.rest.head? = some '#' then .ok ended
    else do
      let (word, rest) ← plainWord inFlow gap.cursor.rest
      if word.isEmpty then return ended
      let text := text ++ gap.text ++ word
      let cursor := gap.cursor.moveTo rest
      if rest.isEmpty || !startsBlank rest then return ⟨text, false, cursor⟩
      let gap ← cursor.readGap indent
      if !inFlow && gap.cursor.column < indent then return ⟨text, gap.isBroken, gap.cursor⟩
      plainWords inFlow indent fuel text gap

def readPlain (inFlow : Bool) (indent : Nat) (cursor : Cursor) : Except Fault ScalarText :=
  plainWords inFlow indent (cursor.rest.length + 1) [] ⟨[], [], false, cursor⟩

/-! ## Quoted scalars -/

/-- The characters that a backslash and one letter stand for. -/
def escapes : List (Char × Char) :=
  [('0', '\x00'), ('a', '\x07'), ('b', '\x08'), ('t', '\t'), ('\t', '\t'), ('n', '\n'),
    ('v', '\x0B'), ('f', '\x0C'), ('r', '\r'), ('e', '\x1B'), (' ', ' '), ('\x22', '\x22'),
    ('/', '/'), ('\\', '\\'), ('N', '\u0085'), ('_', '\u00A0'), ('L', '\u2028'), ('P', '\u2029')]

/-- The number of hexadecimal digits after a letter that names a character by its code point. -/
def codeLength? (c : Char) : Option Nat :=
  if c = 'x' then some 2 else if c = 'u' then some 4 else if c = 'U' then some 8 else none

/-- Where a run of characters inside quotes ends. -/
inductive RunEnd where
  | quote
  | gap
  /-- A backslash at the end of its line. -/
  | escapedBreak
  | endOfText

/-- A run of characters inside quotes, how it ends, and what follows. -/
structure QuotedRun where
  text : List Char
  ending : RunEnd
  rest : List Char

/-- A run with one more character before it. -/
def QuotedRun.cons (c : Char) (run : QuotedRun) : QuotedRun :=
  { run with text := c :: run.text }

/-- A run between single quotes, where a quote is written twice. -/
def singleRun : List Char → QuotedRun
  | [] => ⟨[], .endOfText, []⟩
  | '\x27' :: '\x27' :: rest => (singleRun rest).cons '\x27'
  | c :: rest =>
    if c = '\x27' then ⟨[], .quote, rest⟩
    else if isSpace c || isBreak c then ⟨[], .gap, c :: rest⟩
    else (singleRun rest).cons c

/-- A run between double quotes. `missing` counts the digits of a code point that are still to come
after the ones that make `code`. -/
def doubleRun : Nat → Nat → List Char → Except Fault QuotedRun
  | _ + 1, _, [] => .error .badEscape
  | missing + 1, code, c :: rest =>
    match Text.digitValue? 16 c with
    | none => .error .badEscape
    | some digit =>
      let code := code * 16 + digit
      if missing > 0 then doubleRun missing code rest
      else if code.isValidChar then (doubleRun 0 0 rest).map (.cons (Char.ofNat code))
      else .error .badEscape
  | 0, _, [] => .ok ⟨[], .endOfText, []⟩
  | 0, _, ['\\'] => .error .badEscape
  | 0, _, '\\' :: c :: rest =>
    if isBreak c then .ok ⟨[], .escapedBreak, rest⟩
    else
      match escapes.lookup c, codeLength? c with
      | some meant, _ => (doubleRun 0 0 rest).map (.cons meant)
      | none, some digits => doubleRun digits 0 rest
      | none, none => .error .badEscape
  | 0, _, c :: rest =>
    if c = '\x22' then .ok ⟨[], .quote, rest⟩
    else if isSpace c || isBreak c then .ok ⟨[], .gap, c :: rest⟩
    else (doubleRun 0 0 rest).map (.cons c)

/-- The rest of a quoted scalar after `text`. `fuel` bounds the number of runs. -/
def quotedRuns (run : List Char → Except Fault QuotedRun) :
    Nat → List Char → Cursor → Except Fault ScalarText
  | 0, _, _ => .error .unclosedQuote
  | fuel + 1, text, cursor =>
    if cursor.atMarker then .error .unclosedQuote
    else do
      let next ← run cursor.rest
      let text := text ++ next.text
      match next.ending with
      | .quote => return ⟨text, false, cursor.moveTo next.rest⟩
      | .endOfText => .error .unclosedQuote
      | .gap =>
        let gap ← (cursor.moveTo next.rest).readGap 0
        quotedRuns run fuel (text ++ gap.text) gap.cursor
      | .escapedBreak =>
        let gap ← readGap 0 true [] [] next.rest (cursor.line + 1) 0
        quotedRuns run fuel (text ++ gap.breaks) gap.cursor

/-- A quoted scalar of which the opening quote has been read. -/
def readQuoted (style : ScalarStyle) (cursor : Cursor) : Except Fault ScalarText :=
  let run := if style = .singleQuoted then fun text => .ok (singleRun text) else doubleRun 0 0
  quotedRuns run (cursor.rest.length + 1) [] cursor

/-! ## Block scalars -/

/-- What happens to the line breaks at the end of a block. -/
inductive Chomping where
  | strip
  | clip
  | keep
  deriving DecidableEq

/-- What stands after the indicator of a block. -/
structure BlockHeader where
  chomping : Chomping := .clip
  /-- The indentation on top of the surrounding one, if it is given. -/
  increment : Option Nat := none

/-- The chomping that a sign stands for. -/
def chomping? (c : Char) : Option Chomping :=
  if c = '+' then some .keep else if c = '-' then some .strip else none

/-- The indentation that a digit stands for. -/
def increment? (c : Char) : Option Nat :=
  if c.isDigit then some (c.toNat - '0'.toNat) else none

/-- A sign and a digit in either order, both optional, and what follows them. -/
def readHeader : List Char → Except Fault (BlockHeader × List Char)
  | [] => .ok ({}, [])
  | c :: rest =>
    match chomping? c, increment? c with
    | some chomping, _ =>
      match rest.head?.bind increment? with
      | some 0 => .error .badBlockHeader
      | some n => .ok (⟨chomping, some n⟩, rest.drop 1)
      | none => .ok (⟨chomping, none⟩, rest)
    | none, some 0 => .error .badBlockHeader
    | none, some n =>
      match rest.head?.bind chomping? with
      | some chomping => .ok (⟨chomping, some n⟩, rest.drop 1)
      | none => .ok (⟨.clip, some n⟩, rest)
    | none, none => .ok ({}, c :: rest)

/-- Empty lines and the indentation of the next line of a block. -/
structure BlockGap where
  breaks : List Char
  /-- The widest indentation that was passed. -/
  widest : Nat
  cursor : Cursor

/-- The gap that starts here, before column `indent` if it is known already. -/
def readBlockGap (indent : Option Nat) (breaks : List Char) (widest : Nat) :
    List Char → Nat → Nat → Except Fault BlockGap
  | [], line, column => .ok ⟨breaks, max widest column, ⟨[], line, column⟩⟩
  | c :: rest, line, column =>
    let isBefore := indent.all fun indent => column < indent
    if c = ' ' && isBefore then
      readBlockGap indent breaks (max widest (column + 1)) rest line (column + 1)
    else if c = '\t' && isBefore then .error .tabIndentation
    else if isBreak c then readBlockGap indent (breaks ++ [c]) widest rest (line + 1) 0
    else .ok ⟨breaks, max widest column, ⟨c :: rest, line, column⟩⟩

structure BlockText where
  text : List Char
  /-- The line break after the last line. -/
  lastBreak : List Char
  /-- Whether the last line starts with a blank. -/
  startsBlank : Bool
  /-- The empty lines after it. -/
  gap : BlockGap

/-- What joins the lines before and after a gap: in a folded block a single line feed is a blank, and
disappears before empty lines, unless one of the two lines starts with a blank. -/
def BlockText.joint (block : BlockText) (isFolded nextStartsBlank : Bool) : List Char :=
  if isFolded && block.lastBreak = ['\n'] && !block.startsBlank && !nextStartsBlank then
    if block.gap.breaks.isEmpty then [' '] else block.gap.breaks
  else block.lastBreak ++ block.gap.breaks

/-- The lines of a block at column `indent`. `fuel` bounds their number. -/
def blockLines (isFolded : Bool) (indent : Nat) : Nat → BlockText → Except Fault BlockText
  | 0, block => .ok block
  | fuel + 1, block =>
    let cursor := block.gap.cursor
    if cursor.column = indent && !cursor.rest.isEmpty then do
      let startsBlank := cursor.rest.head?.any isSpace
      let (line, cursor) := cursor.takeWhile fun _ => true
      let (lastBreak, cursor) := cursor.takeBreak
      let gap ← readBlockGap (some indent) [] 0 cursor.rest cursor.line cursor.column
      blockLines isFolded indent fuel
        ⟨block.text ++ block.joint isFolded startsBlank ++ line, lastBreak, startsBlank, gap⟩
    else .ok block

/-- A block of which the indicator has been read. `surrounding` is the indentation of the collection
that the block stands in. -/
def readBlock (isFolded : Bool) (surrounding : Option Nat) (cursor : Cursor) :
    Except Fault ScalarText := do
  let (header, rest) ← readHeader cursor.rest
  let cursor ← (cursor.moveTo rest).finishLine .badBlockHeader
  let given := header.increment.map fun n => surrounding.getD 0 + n
  let gap ← readBlockGap given [] 0 cursor.rest cursor.line cursor.column
  let least := max 1 ((surrounding.map (· + 1)).getD 0)
  let indent := given.getD (max gap.widest least)
  let block ← blockLines isFolded indent (cursor.rest.length + 1) ⟨[], [], false, gap⟩
  let kept := match header.chomping with
    | .strip => []
    | .clip => block.lastBreak
    | .keep => block.lastBreak ++ block.gap.breaks
  return ⟨block.text ++ kept, true, block.gap.cursor⟩

end ThrowawayServer.Yaml
