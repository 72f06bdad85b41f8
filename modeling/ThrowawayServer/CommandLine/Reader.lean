/-!
# Reading arguments

Arguments are read from the left. An option takes the argument after it as its value, whatever that
looks like; two dashes end the options. A `CommandSpec` tells which options and other arguments a
command has and what each of them does to a record of what was given.
-/

set_option autoImplicit false

namespace ThrowawayServer

/-- Why a command line is refused. -/
inductive UsageError where
  /-- An argument is missing, unknown or in the wrong place. -/
  | misused
  | badOption (spelling value reason : String)
  | badPositional (name value reason : String)
  deriving DecidableEq, Repr

/-- The wording for a value that is refused. -/
def UsageError.message? : UsageError → Option String
  | .misused => none
  | .badOption spelling value reason =>
    some s!"Error parsing option '{spelling}' with value '{value}': {reason}"
  | .badPositional name value reason =>
    some s!"Error parsing positional argument '{name}' with value '{value}': {reason}"

/-- Why reading a command line comes to nothing that could be run. -/
inductive Unread where
  | help
  | usage (error : UsageError)
  deriving DecidableEq, Repr

structure OptionSpec (α : Type) where
  spellings : List String
  /-- Whether a value was given and no other one may follow. -/
  isTaken : α → Bool
  put : String → α → Except String α

/-- An argument that is no option. -/
structure PositionalSpec (α : Type) where
  name : String
  /-- Whether all further arguments belong here. -/
  repeats : Bool := false
  put : String → α → Except String α

structure CommandSpec (α : Type) where
  switches : List (String × (α → α)) := []
  options : List (OptionSpec α) := []
  positionals : List (PositionalSpec α) := []
  /-- The commands that can follow. -/
  commands : List String := []

structure ArgumentReading (α : Type) where
  given : α
  wantsHelp : Bool := false
  optionsEnded : Bool := false
  /-- What arguments that are no options are taken for. -/
  positionals : List (PositionalSpec α)

/-- A command that was reached, and the arguments for it. -/
structure ReachedCommand where
  name : String
  arguments : List String
  deriving DecidableEq, Repr

namespace CommandSpec

variable {α : Type}

/-- The reason for refusing a second value. -/
def duplicate : String := "duplicate values provided"

def takeOption (option : OptionSpec α) (spelling value : String) (reading : ArgumentReading α) :
    Except Unread (ArgumentReading α) :=
  let result := if option.isTaken reading.given then .error duplicate
    else option.put value reading.given
  match result with
  | .ok given => .ok { reading with given }
  | .error reason => .error (.usage (.badOption spelling value reason))

/-- Takes an argument that is no option. -/
def takePositional (value : String) (reading : ArgumentReading α) :
    Except Unread (ArgumentReading α) :=
  match reading.positionals with
  | [] => .error (.usage .misused)
  | positional :: rest =>
    match positional.put value reading.given with
    | .ok given =>
      .ok { reading with given, positionals := if positional.repeats then positional :: rest else rest }
    | .error reason => .error (.usage (.badPositional positional.name value reason))

/-- Reads arguments up to their end or to a command that can follow. -/
def readFrom (spec : CommandSpec α) :
    List String → ArgumentReading α → Except Unread (ArgumentReading α × Option ReachedCommand)
  | [], reading => .ok (reading, none)
  | argument :: rest, reading =>
    if !reading.optionsEnded && (argument = "--help" || argument = "help") then
      readFrom spec rest { reading with wantsHelp := true }
    else if !reading.optionsEnded && argument.startsWith "-" then
      if argument = "--" then readFrom spec rest { reading with optionsEnded := true }
      else if reading.wantsHelp then .error (.usage .misused)
      else
        match spec.switches.lookup argument with
        | some flip => readFrom spec rest { reading with given := flip reading.given }
        | none =>
          match spec.options.find? fun option => option.spellings.contains argument, rest with
          | some option, value :: rest =>
            match takeOption option argument value reading with
            | .ok reading => readFrom spec rest reading
            | .error unread => .error unread
          | _, _ => .error (.usage .misused)
    else if spec.commands.contains argument then
      let arguments := if reading.wantsHelp then "help" :: rest else rest
      .ok ({ reading with wantsHelp := false }, some { name := argument, arguments })
    else
      match takePositional argument reading with
      | .ok reading => readFrom spec rest reading
      | .error unread => .error unread

/-- What was given in arguments, and the command that they lead to. -/
def read (spec : CommandSpec α) (arguments : List String) (nothing : α) :
    Except Unread (α × Option ReachedCommand) :=
  match spec.readFrom arguments { given := nothing, positionals := spec.positionals } with
  | .error unread => .error unread
  | .ok (reading, command) =>
    if reading.wantsHelp then .error .help else .ok (reading.given, command)

end CommandSpec

end ThrowawayServer
