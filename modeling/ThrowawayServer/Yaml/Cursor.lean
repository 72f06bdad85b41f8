import ThrowawayServer.Yaml.Fault

/-!
# Places in a YAML text

A `Cursor` is what is left of a text with the line and column it starts at. Before reading, line ends
of every kind become line feeds; the line and paragraph separators end lines too but stay themselves.
-/

set_option autoImplicit false

namespace ThrowawayServer.Yaml

/-- Whether a character may occur in a YAML text. -/
def isAllowed (c : Char) : Bool :=
  let n := c.toNat
  n == 0x9 || n == 0xA || n == 0xD || (0x20 ≤ n && n ≤ 0x7E) || n == 0x85 ||
    (0xA0 ≤ n && n ≤ 0xD7FF) || (0xE000 ≤ n && n ≤ 0xFFFD) || 0x10000 ≤ n

/-- A text whose line ends are line feeds. -/
def unifyBreaks : List Char → List Char
  | [] => []
  | '\r' :: '\n' :: rest => '\n' :: unifyBreaks rest
  | c :: rest => (if c = '\r' || c = '\u0085' then '\n' else c) :: unifyBreaks rest

/-- Whether a character ends a line. -/
def isBreak (c : Char) : Bool := c = '\n' || c = '\u2028' || c = '\u2029'

/-- Whether a character is a space or a tab. -/
def isSpace (c : Char) : Bool := c = ' ' || c = '\t'

/-- Whether a character may stand in the name of an anchor, a directive or a tag handle. -/
def isWordChar (c : Char) : Bool := c.isAlphanum || c = '_' || c = '-'

/-- Whether a text is at its end or goes on with a space, a tab or a line break. -/
def startsBlank : List Char → Bool
  | [] => true
  | c :: _ => isSpace c || isBreak c

/-- Whether a text is at its end or goes on with a line break. -/
def atLineEnd : List Char → Bool
  | [] => true
  | c :: _ => isBreak c

/-- Whether a text goes on with three hyphens or three dots that stand alone. -/
def startsMarker (mark : Char) : List Char → Bool
  | a :: b :: c :: rest => a = mark && b = mark && c = mark && startsBlank rest
  | _ => false

/-- What is left of a text, and where it starts. -/
structure Cursor where
  rest : List Char
  line : Nat := 0
  column : Nat := 0
  deriving Repr

namespace Cursor

/-- The cursor after `n` more characters of the same line. -/
def advance (cursor : Cursor) (n : Nat) : Cursor :=
  { cursor with rest := cursor.rest.drop n, column := cursor.column + n }

/-- The cursor at a later place of the same line, given by what is left there. -/
def moveTo (cursor : Cursor) (rest : List Char) : Cursor :=
  { cursor with rest, column := cursor.column + (cursor.rest.length - rest.length) }

/-- The cursor at the start of the next line, given by what is left there. -/
def newLine (cursor : Cursor) (rest : List Char) : Cursor :=
  { rest, line := cursor.line + 1 }

/-- The characters of this line that satisfy `p`, and the cursor after them. -/
def takeWhile (cursor : Cursor) (p : Char → Bool) : List Char × Cursor :=
  let taken := cursor.rest.takeWhile fun c => p c && !isBreak c
  (taken, cursor.advance taken.length)

/-- The cursor after the characters of this line that satisfy `p`. -/
def skipWhile (cursor : Cursor) (p : Char → Bool) : Cursor :=
  (cursor.takeWhile p).2

/-- The cursor after a comment, if one starts here. -/
def skipComment (cursor : Cursor) : Cursor :=
  if cursor.rest.head? = some '#' then cursor.skipWhile fun _ => true else cursor

/-- The line break that starts here, if there is one, and the cursor after it. -/
def takeBreak (cursor : Cursor) : List Char × Cursor :=
  match cursor.rest with
  | c :: rest => if isBreak c then ([c], cursor.newLine rest) else ([], cursor)
  | [] => ([], cursor)

/-- The cursor at the end of a line of which only blanks and a comment are left. -/
def finishLine (cursor : Cursor) (fault : Fault) : Except Fault Cursor :=
  let cursor := (cursor.skipWhile isSpace).skipComment
  if atLineEnd cursor.rest then .ok cursor.takeBreak.2 else .error fault

/-- Whether a document marker starts here, which ends scalars that are open. -/
def atMarker (cursor : Cursor) : Bool :=
  cursor.column = 0 && (startsMarker '-' cursor.rest || startsMarker '.' cursor.rest)

end Cursor

end ThrowawayServer.Yaml
