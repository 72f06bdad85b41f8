import ThrowawayServer.Yaml.Scalar

/-!
# Tokens of a YAML text

The signs a YAML text consists of. Indentation shows as the starts and ends of block collections; a
mapping key is marked by `key` before it, also where the text has no sign for that.
-/

set_option autoImplicit false

namespace ThrowawayServer.Yaml

/-- A tag as it is written: a handle that is declared, and what follows it. A tag in angle brackets has
an empty handle. -/
structure RawTag where
  handle : List Char
  suffix : List Char
  deriving DecidableEq, Repr

/-- One sign of a YAML text. -/
inductive Token where
  | versionDirective (major minor : Nat)
  | tagDirective (handle start : List Char)
  | documentStart
  | documentEnd
  | blockSequenceStart
  | blockMappingStart
  | blockEnd
  | flowSequenceStart
  | flowSequenceEnd
  | flowMappingStart
  | flowMappingEnd
  | blockEntry
  | flowEntry
  | key
  | value
  | reference (name : List Char)
  | anchor (name : List Char)
  | tag (tag : RawTag)
  | scalar (style : ScalarStyle) (text : List Char)
  deriving DecidableEq, Repr

/-! ## Names, directives and tags -/

/-- The name after the sign of an anchor or of a reference to one. -/
def readAnchorName (cursor : Cursor) : Except Fault (List Char × Cursor) :=
  let (name, cursor) := cursor.takeWhile isWordChar
  let isEnded := startsBlank cursor.rest ||
    cursor.rest.head?.any fun c => "?:,]\x7d%@\x60".toList.contains c
  if name.isEmpty || !isEnded then .error .badAnchor else .ok (name, cursor)

/-- Whether a character may stand in a tag; the signs of flow collections may do so only in angle
brackets and in directives. -/
def isTagChar (isWide : Bool) (c : Char) : Bool :=
  isWordChar c || ";/?:@&=+$.!~*\x27()%".toList.contains c ||
    (isWide && (c = ',' || c = '[' || c = ']'))

/-- The number of bytes of a character whose first byte is given, and the value of the bits in it. -/
def leadByte? (byte : Nat) : Option (Nat × Nat) :=
  if byte < 0x80 then some (1, byte)
  else if 0xC0 ≤ byte && byte < 0xE0 then some (2, byte - 0xC0)
  else if 0xE0 ≤ byte && byte < 0xF0 then some (3, byte - 0xE0)
  else if 0xF0 ≤ byte && byte < 0xF8 then some (4, byte - 0xF0)
  else none

/-- The value of two hexadecimal digits. -/
def hexByte? (a b : Char) : Option Nat := do
  return (← Text.digitValue? 16 a) * 16 + (← Text.digitValue? 16 b)

/-- A tag in which percent signs and two digits stand for bytes of characters. `missing` counts the
bytes of a character that are still to come after the ones that make `code`. -/
def decodeTag : Nat → Nat → List Char → Except Fault (List Char)
  | 0, _, [] => .ok []
  | _ + 1, _, [] => .error .badTag
  | missing, code, '%' :: a :: b :: rest =>
    match hexByte? a b with
    | none => .error .badTag
    | some byte =>
      match missing with
      | missing + 1 =>
        if 0x80 ≤ byte && byte < 0xC0 then
          let code := code * 64 + (byte - 0x80)
          if missing > 0 then decodeTag missing code rest
          else (decodeTag 0 0 rest).map (Char.ofNat code :: ·)
        else .error .badTag
      | 0 =>
        match leadByte? byte with
        | none => .error .badTag
        | some (1, code) => (decodeTag 0 0 rest).map (Char.ofNat code :: ·)
        | some (length, code) => decodeTag (length - 1) code rest
  | missing, _, c :: rest =>
    if missing > 0 || c = '%' then .error .badTag else (decodeTag 0 0 rest).map (c :: ·)

/-- The characters of a tag that stand here, decoded, and the cursor after them. -/
def readTagText (isWide : Bool) (cursor : Cursor) : Except Fault (List Char × Cursor) := do
  let (written, cursor) := cursor.takeWhile (isTagChar isWide)
  return (← decodeTag 0 0 written, cursor)

/-- A handle: an exclamation mark, then possibly a name and a second one. -/
def readHandle (cursor : Cursor) : Except Fault (List Char × Cursor) :=
  if cursor.rest.head? ≠ some '!' then .error .badTag
  else
    let (name, cursor) := (cursor.advance 1).takeWhile isWordChar
    if cursor.rest.head? = some '!' then .ok ('!' :: name ++ ['!'], cursor.advance 1)
    else .ok ('!' :: name, cursor)

/-- Whether a handle is closed by a second exclamation mark. -/
def isNamedHandle (handle : List Char) : Bool :=
  handle.length > 1 && handle.getLast? = some '!'

/-- A tag in angle brackets, of which the opening one has been read. -/
def readVerbatimTag (cursor : Cursor) : Except Fault (RawTag × Cursor) := do
  let (suffix, cursor) ← readTagText true cursor
  if suffix.isEmpty || cursor.rest.head? ≠ some '>' then .error .badTag
  else return (⟨[], suffix⟩, cursor.advance 1)

/-- A tag that starts with a handle. A lone exclamation mark is the tag itself. -/
def readHandledTag (cursor : Cursor) : Except Fault (RawTag × Cursor) := do
  let (handle, cursor) ← readHandle cursor
  let (text, cursor) ← readTagText false cursor
  if isNamedHandle handle then
    if text.isEmpty then .error .badTag else return (⟨handle, text⟩, cursor)
  else
    match handle.drop 1 ++ text with
    | [] => return (⟨[], ['!']⟩, cursor)
    | suffix => return (⟨['!'], suffix⟩, cursor)

/-- A tag; a blank must follow it, or inside brackets a comma. -/
def readTag (inFlow : Bool) (cursor : Cursor) : Except Fault (RawTag × Cursor) := do
  let (tag, cursor) ←
    if cursor.rest[1]? = some '<' then readVerbatimTag (cursor.advance 2)
    else readHandledTag cursor
  if startsBlank cursor.rest || (inFlow && cursor.rest.head? = some ',') then return (tag, cursor)
  else .error .badTag

/-- A number of a version, at most nine digits. -/
def readVersionNumber (cursor : Cursor) : Except Fault (Nat × Cursor) :=
  let (digits, cursor) := cursor.takeWhile Char.isDigit
  if digits.isEmpty || digits.length > 9 then .error .badDirective
  else .ok (digits.foldl (fun value digit => value * 10 + (digit.toNat - '0'.toNat)) 0, cursor)

/-- What follows the name of a version directive. -/
def readVersionDirective (cursor : Cursor) : Except Fault (Token × Cursor) := do
  let (major, cursor) ← readVersionNumber (cursor.skipWhile isSpace)
  if cursor.rest.head? ≠ some '.' then .error .badDirective
  else
    let (minor, cursor) ← readVersionNumber (cursor.advance 1)
    return (.versionDirective major minor, cursor)

/-- What follows the name of a tag directive. -/
def readTagDirective (cursor : Cursor) : Except Fault (Token × Cursor) := do
  let (handle, cursor) ← readHandle (cursor.skipWhile isSpace)
  if handle ≠ ['!'] && !isNamedHandle handle then .error .badDirective
  else if !cursor.rest.head?.any isSpace then .error .badDirective
  else
    let (start, cursor) ← readTagText true (cursor.skipWhile isSpace)
    if start.isEmpty || !startsBlank cursor.rest then .error .badDirective
    else return (.tagDirective handle start, cursor)

/-- A directive, of which the percent sign has been read. -/
def readDirective (cursor : Cursor) : Except Fault (Token × Cursor) := do
  let (name, cursor) := cursor.takeWhile isWordChar
  let (token, cursor) ←
    if !startsBlank cursor.rest then .error .badDirective
    else if name = "YAML".toList then readVersionDirective cursor
    else if name = "TAG".toList then readTagDirective cursor
    else .error .badDirective
  return (token, ← cursor.finishLine .badDirective)

end ThrowawayServer.Yaml
