/-!
# Wildcards

Patterns of the shell: an asterisk is any text, a question mark any character, and brackets hold sets.
Characters that were quoted stand for themselves.
-/

set_option autoImplicit false

namespace ThrowawayServer.Shell

/-- One part of a pattern. -/
inductive Wildcard where
  | char (c : Char)
  | anyChar
  | anyText
  | set (isNegated : Bool) (ranges : List (Char × Char))
  deriving DecidableEq, Repr

namespace Wildcard

/-- The ranges of a set and what follows its bracket; none if no bracket closes it. -/
def ranges : List Char → Option (List (Char × Char) × List Char)
  | [] => none
  | ']' :: rest => some ([], rest)
  | low :: '-' :: ']' :: rest => some ([(low, low), ('-', '-')], rest)
  | low :: '-' :: high :: rest =>
    (ranges rest).map fun (inside, after) => ((low, high) :: inside, after)
  | c :: rest => (ranges rest).map fun (inside, after) => ((c, c) :: inside, after)

def readSet (text : List Char) : Option (Wildcard × List Char) :=
  let isNegated := text.head? = some '!' || text.head? = some '^'
  let inside := if isNegated then text.drop 1 else text
  match inside with
  | ']' :: rest =>
    (ranges rest).map fun (found, after) => (.set isNegated ((']', ']') :: found), after)
  | _ => (ranges inside).map fun (found, after) => (.set isNegated found, after)

/-- The parts of a pattern; each character comes with whether it can be more than itself. `skip` counts
the characters that belong to a set before them. -/
def read : Nat → List (Char × Bool) → List Wildcard
  | _, [] => []
  | skip + 1, _ :: rest => read skip rest
  | 0, (c, false) :: rest => .char c :: read 0 rest
  | 0, ('*', true) :: rest => .anyText :: read 0 rest
  | 0, ('?', true) :: rest => .anyChar :: read 0 rest
  | 0, ('[', true) :: rest =>
    match readSet (rest.map (·.1)) with
    | some (found, after) => found :: read (rest.length - after.length) rest
    | none => .char '[' :: read 0 rest
  | 0, (c, true) :: rest => .char c :: read 0 rest

/-- Whether a part that is no text of any length accepts a character. -/
def accepts (part : Wildcard) (c : Char) : Bool :=
  match part with
  | .char d => c = d
  | .anyChar | .anyText => true
  | .set isNegated ranges => (ranges.any fun (low, high) => low ≤ c && c ≤ high) ≠ isNegated

/-- Whether a pattern describes a whole text. -/
def describes : List Wildcard → List Char → Bool
  | [], text => text.isEmpty
  | .anyText :: parts, text =>
    (List.range (text.length + 1)).any fun n => describes parts (text.drop n)
  | _ :: _, [] => false
  | part :: parts, c :: rest => part.accepts c && describes parts rest

/-- A text without the shortest or longest part at its start that a pattern describes. -/
def dropStart (isLongest : Bool) (pattern : List Wildcard) (text : List Char) : List Char :=
  let cuts := List.range (text.length + 1)
  let cuts := if isLongest then cuts.reverse else cuts
  match cuts.find? fun n => describes pattern (text.take n) with
  | some n => text.drop n
  | none => text

/-- A text without the shortest or longest part at its end that a pattern describes. -/
def dropEnd (isLongest : Bool) (pattern : List Wildcard) (text : List Char) : List Char :=
  let cuts := List.range (text.length + 1)
  let cuts := if isLongest then cuts else cuts.reverse
  match cuts.find? fun n => describes pattern (text.drop n) with
  | some n => text.take n
  | none => text

end Wildcard

end ThrowawayServer.Shell
