/-!
# Cutting and searching texts

Texts are lists of characters. `splitAll` and `splitFirst` cut at a character, `lines` at line
feeds, `stripStart?` and `stripEnd?` take a known part off an end, `contains` and `replaceAll` search
for a piece of text. No character is lost except the ones that are cut at.
-/

set_option autoImplicit false

namespace ThrowawayServer.Text

/-- The pieces between the occurrences of `mark`; a text without it is its own single piece. -/
def splitAll (mark : Char) : List Char → List (List Char)
  | [] => [[]]
  | c :: rest =>
    if c = mark then [] :: splitAll mark rest
    else
      match splitAll mark rest with
      | [] => [[c]]
      | piece :: pieces => (c :: piece) :: pieces

/-- What stands before and after the first `mark`, if it occurs. -/
def splitFirst (mark : Char) : List Char → Option (List Char × List Char)
  | [] => none
  | c :: rest =>
    if c = mark then some ([], rest)
    else (splitFirst mark rest).map fun (before, after) => (c :: before, after)

/-- A line without the one carriage return that may end it. -/
def dropReturn (line : List Char) : List Char :=
  match line.reverse with
  | '\r' :: rest => rest.reverse
  | _ => line

/-- The lines of a text. A line feed ends a line and takes one carriage return before it along; what
follows the last line feed is a line only if it is not empty, and keeps its carriage return. -/
def lines (text : List Char) : List (List Char) :=
  let rec go : List (List Char) → List (List Char)
    | [] => []
    | [last] => if last.isEmpty then [] else [last]
    | line :: rest => dropReturn line :: go rest
  go (splitAll '\n' text)

/-- What follows `start` in a text that begins with it. -/
def stripStart? : List Char → List Char → Option (List Char)
  | [], text => some text
  | _ :: _, [] => none
  | s :: start, c :: text => if s = c then stripStart? start text else none

/-- What precedes `ending` in a text that ends with it. -/
def stripEnd? (ending text : List Char) : Option (List Char) :=
  (stripStart? ending.reverse text.reverse).map List.reverse

def contains (piece : List Char) : List Char → Bool
  | [] => piece.isEmpty
  | c :: rest => piece.isPrefixOf (c :: rest) || contains piece rest

/-- The text with every occurrence of `piece` replaced, found from the left without overlap. `skip`
counts the characters of an occurrence that are still to be passed over. -/
def replaceFrom (piece new : List Char) : Nat → List Char → List Char
  | _, [] => []
  | skip + 1, _ :: rest => replaceFrom piece new skip rest
  | 0, c :: rest =>
    if piece.isPrefixOf (c :: rest) then new ++ replaceFrom piece new (piece.length - 1) rest
    else c :: replaceFrom piece new 0 rest

/-- The text with every occurrence of the non-empty `piece` replaced by `new`. -/
def replaceAll (piece new text : List Char) : List Char :=
  if piece.isEmpty then text else replaceFrom piece new 0 text

/-- The text on characters lifted to strings. -/
def onString (f : List Char → List Char) (s : String) : String :=
  String.ofList (f s.toList)

/-- The strings of a list with `separator` between neighbours. -/
def join (separator : String) (parts : List String) : String :=
  String.intercalate separator parts

end ThrowawayServer.Text
