import ThrowawayServer.Pattern.Basic
import ThrowawayServer.Text.Blank
import ThrowawayServer.Text.DecimalDigit
import ThrowawayServer.Text.LetterCase

/-!
# Matching patterns

`Pattern.ends` gives all pieces of text that a pattern describes from a place on, by the places where
they end, in the order of preference. A text matches at the first place where a piece starts, with the
preferred piece there. A repetition goes on from a place only once, by the preferred way to it, and only
after a piece that is not empty.
-/

set_option autoImplicit false

namespace ThrowawayServer

/-- Whether a set holds a character. -/
def CharSet.contains : CharSet → Char → Bool
  | .nothing, _ => false
  | .range first last, c => first ≤ c && c ≤ last
  | .digit, c => Text.isDecimalDigit c
  | .blank, c => Text.isBlank c
  | .either first second, c => first.contains c || second.contains c
  | .allBut set, c => !set.contains c
  | .anyCase set, c => (Text.caseVariants c).any set.contains

/-- A piece of a text: what stands from its start on, and how many characters of that belong to it. -/
structure Piece where
  rest : List Char
  length : Nat
  deriving DecidableEq, Repr

def Piece.text (piece : Piece) : List Char := piece.rest.take piece.length

/-- A place in a text, and what has been named on the way to it. -/
structure Place where
  /-- The number of characters before the place. -/
  offset : Nat := 0
  rest : List Char
  /-- The named pieces, the latest first. -/
  names : List (String × Piece) := []
  deriving DecidableEq, Repr

namespace Place

/-- What stands between two places of which the second is the later one. -/
def upTo (start stop : Place) : Piece := ⟨start.rest, stop.offset - start.offset⟩

/-- The place after a character of a set. -/
def step (place : Place) (set : CharSet) : List Place :=
  match place.rest with
  | [] => []
  | c :: rest => if set.contains c then [{ place with offset := place.offset + 1, rest }] else []

/-- The places after one or more characters of a set, the farthest first, and then the ones that have
been passed before. The characters are those from `place` on. -/
def run (set : CharSet) (place : Place) (passed : List Place) : List Char → List Place
  | [] => passed
  | c :: rest =>
    if set.contains c then
      let next := { place with offset := place.offset + 1, rest }
      run set next (next :: passed) rest
    else passed

/-- The place with a name for what stands between a start and it. -/
def name (place : Place) (name : String) (start : Place) : Place :=
  { place with names := (name, start.upTo place) :: place.names }

end Place

/-- The places that repeated pieces have led to. -/
structure Reached where
  offsets : List Nat := []
  /-- The places where the repetition may end, the least preferred first. -/
  found : List Place := []

namespace Reached

/-- With a place where the repetition may end. -/
def add (reached : Reached) (place : Place) : Reached :=
  { reached with found := place :: reached.found }

end Reached

namespace Pattern

/-- Two lists of places in the order of preference. -/
def prefer (isGreedy : Bool) (longer shorter : List Place) : List Place :=
  if isGreedy then longer ++ shorter else shorter ++ longer

/-- Where one or more pieces end, of which `ends` gives the single ones. A place is kept and gone on from
only when it is reached for the first time. `fuel` bounds the number of pieces one after the other. -/
def repeatedEnds (ends : Place → List Place) (isGreedy : Bool) : Nat → Place → Reached → Reached
  | 0, _, reached => reached
  | fuel + 1, place, reached =>
    (ends place).foldl
      (fun reached next =>
        if reached.offsets.contains next.offset then reached
        else
          let reached := { reached with offsets := next.offset :: reached.offsets }
          if next.offset ≤ place.offset then reached.add next
          else if isGreedy then (repeatedEnds ends isGreedy fuel next reached).add next
          else repeatedEnds ends isGreedy fuel next (reached.add next))
      reached

/-- Where the pieces end that a pattern describes from a place on, in the order of preference. -/
def ends : Pattern → Place → List Place
  | .empty, place => [place]
  | .char set, place => place.step set
  | .textStart, place => if place.offset = 0 then [place] else []
  | .textEnd, place => if place.rest.isEmpty then [place] else []
  | .sequence first second, place => (first.ends place).flatMap second.ends
  | .choice first second, place => first.ends place ++ second.ends place
  | .optional inner isGreedy, place => prefer isGreedy (inner.ends place) [place]
  | .repeated (.char set) isGreedy, place =>
    let farthestFirst := place.run set [] place.rest
    if isGreedy then farthestFirst else farthestFirst.reverse
  | .repeated inner isGreedy, place =>
    (repeatedEnds inner.ends isGreedy (place.rest.length + 1) place {}).found.reverse
  | .named name inner, place => (inner.ends place).map fun next => next.name name place

/-- A piece of text that a pattern describes. -/
structure Found where
  piece : Piece
  names : List (String × Piece)
  deriving DecidableEq, Repr

/-- The preferred piece that starts at a place. -/
def foundAt? (pattern : Pattern) (place : Place) : Option Found :=
  (pattern.ends place).head?.map fun stop => ⟨place.upTo stop, stop.names⟩

/-- The preferred piece at the first place from here on where one starts. -/
def findFrom? (pattern : Pattern) (offset : Nat) : List Char → Option Found
  | [] => pattern.foundAt? { offset, rest := [] }
  | c :: rest =>
    match pattern.foundAt? { offset, rest := c :: rest } with
    | some found => some found
    | none => findFrom? pattern (offset + 1) rest

/-- The first piece of a text that a pattern describes. -/
def find? (pattern : Pattern) (text : List Char) : Option Found :=
  pattern.findFrom? 0 text

def Found.text (found : Found) : List Char := found.piece.text

/-- What a name stands for in a piece. -/
def Found.named? (found : Found) (name : String) : Option (List Char) :=
  (found.names.lookup name).map Piece.text

end Pattern

end ThrowawayServer
