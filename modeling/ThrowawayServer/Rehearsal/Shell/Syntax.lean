/-!
# Shell scripts

Commands of a shell and the words that they are made of. A word is a list of pieces, each of which
stands for some text once it is expanded.
-/

set_option autoImplicit false

namespace ThrowawayServer.Shell

/-- How the text of a piece is treated. -/
inductive Quality where
  /-- Stands for itself. -/
  | quoted
  /-- Written in the script: not split, but wildcards count. -/
  | bare
  /-- The result of an expansion: split at blanks, and wildcards count. -/
  | split
  deriving DecidableEq, Repr

/-- What is done with a parameter. `nullCounts` tells whether an empty value is treated like none. -/
inductive ParameterUse where
  | value
  /-- The word if there is no value. -/
  | default (nullCounts : Bool)
  /-- The word if there is no value, which the parameter then takes. -/
  | assign (nullCounts : Bool)
  /-- The word if there is a value. -/
  | alternative (nullCounts : Bool)
  /-- A failure with the word for its text if there is no value. -/
  | required (nullCounts : Bool)
  | length
  /-- The value without what the word matches at its start. -/
  | dropStart (isLongest : Bool)
  /-- The value without what the word matches at its end. -/
  | dropEnd (isLongest : Bool)
  deriving DecidableEq, Repr

/-- Where a descriptor is made to lead. -/
inductive RedirectionKind where
  | read
  | write
  | append
  /-- The same as another descriptor, or nowhere. -/
  | duplicate
  /-- Reads the text of the word itself. -/
  | document
  deriving DecidableEq, Repr

mutual

inductive Piece where
  | text (chars : List Char) (quality : Quality)
  | parameter (name : String) (use : ParameterUse) (word : List Piece) (isQuoted : Bool)
  | output (body : Command) (isQuoted : Bool)
  /-- The value of an arithmetic expression. -/
  | number (expression : List Piece) (isQuoted : Bool)

/-- Where one descriptor of a command leads. -/
inductive Redirection where
  | mk (descriptor : Nat) (kind : RedirectionKind) (target : List Piece)

inductive Command where
  | simple (line : Nat) (assignments : List (String × List Piece)) (words : List (List Piece))
    (redirections : List Redirection)
  | pipe (left right : Command)
  | negate (body : Command)
  | both (left right : Command)
  | either (left right : Command)
  | sequence (left right : Command)
  | background (body : Command)
  | choose (condition yes no : Command)
  /-- A loop that goes on as long as its condition succeeds, or as long as it fails. -/
  | loop (isUntil : Bool) (condition body : Command)
  /-- A loop over words, or over the arguments of the script. -/
  | each (name : String) (words : Option (List (List Piece))) (body : Command)
  | select (subject : List Piece) (branches : List (List (List Piece) × Command))
  | subshell (body : Command)
  | define (name : String) (body : Command)
  | redirected (line : Nat) (body : Command) (redirections : List Redirection)
  | nothing

end

/-- A piece of a script that becomes one argument or more. -/
abbrev Word := List Piece

/-- The part of a script that has not been read, and the line that its text ends in. -/
structure Script where
  rest : List Char
  lastLine : Nat

namespace Script

def ofText (text : List Char) : Script := { rest := text, lastLine := text.count '\n' + 1 }

def line (script : Script) : Nat := script.lastLine - script.rest.count '\n'

end Script

end ThrowawayServer.Shell
