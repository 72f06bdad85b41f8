/-!
# Text patterns

A `Pattern` describes pieces of text. It is put together from sets of characters, the ends of the
text, sequence, choice and repetition; parts of it can be named, so that a match tells what they
stood for.
-/

set_option autoImplicit false

namespace ThrowawayServer

inductive CharSet where
  | nothing
  /-- The characters from `first` to `last`, both included. -/
  | range (first last : Char)
  /-- The decimal digits of all scripts. -/
  | digit
  /-- The characters that count as blanks. -/
  | blank
  | either (first second : CharSet)
  | allBut (set : CharSet)
  /-- A set with the other cases of its letters. -/
  | anyCase (set : CharSet)
  deriving DecidableEq, Repr, Inhabited

/-- A description of pieces of text. -/
inductive Pattern where
  | empty
  | char (set : CharSet)
  /-- The empty piece at the start of the text. -/
  | textStart
  /-- The empty piece at the end of the text. -/
  | textEnd
  | sequence (first second : Pattern)
  /-- What either describes, the first preferred. -/
  | choice (first second : Pattern)
  /-- What a pattern describes or the empty piece; the longer one is preferred if `isGreedy`. -/
  | optional (inner : Pattern) (isGreedy : Bool)
  /-- One or more pieces; more of them are preferred if `isGreedy`. -/
  | repeated (inner : Pattern) (isGreedy : Bool)
  /-- A piece that is kept under a name. -/
  | named (name : String) (inner : Pattern)
  deriving DecidableEq, Repr, Inhabited

namespace Pattern

/-- A single character. -/
def one (c : Char) : Pattern := .char (.range c c)

/-- A fixed piece of text. -/
def characters : List Char → Pattern
  | [] => .empty
  | [c] => one c
  | c :: rest => .sequence (one c) (characters rest)

/-- A fixed piece of text. -/
def text (s : String) : Pattern := characters s.toList

/-- Any number of pieces. -/
def many (inner : Pattern) (isGreedy : Bool) : Pattern :=
  .optional (.repeated inner isGreedy) isGreedy

/-- Any character but a line feed. -/
def anyChar : Pattern := .char (.allBut (.range '\n' '\n'))

/-- As much as possible of the line. -/
def anything : Pattern := many anyChar true

/-- Patterns one after the other. -/
def all : List Pattern → Pattern
  | [] => .empty
  | [last] => last
  | first :: rest => .sequence first (all rest)

end Pattern

end ThrowawayServer
