/-!
# Shutdown flags

A flag tells that a shutdown command has reached the server on another way, so that stopping it sends
none. Several holders may share one flag. A `FlagBoard` keeps the flags that handles refer to.
-/

set_option autoImplicit false

namespace ThrowawayServer

/-- Whether a shutdown command has been sent on another way. -/
structure ShutdownFlag where
  isMarked : Bool := false
  deriving DecidableEq, Repr

/-- The flag marked, and whether this was the first time. -/
def ShutdownFlag.mark (flag : ShutdownFlag) : Bool × ShutdownFlag :=
  (!flag.isMarked, { isMarked := true })

/-- Flags, and the handles that refer to them. -/
structure FlagBoard where
  flags : List ShutdownFlag := []
  /-- The flag of each handle, by position. -/
  handles : List Nat := []
  deriving DecidableEq, Repr

namespace FlagBoard

def nextHandle (board : FlagBoard) : Nat := board.handles.length

/-- The board with a new flag and a handle for it. -/
def new (board : FlagBoard) : FlagBoard :=
  { flags := board.flags ++ [{}], handles := board.handles ++ [board.flags.length] }

def flag? (board : FlagBoard) (handle : Nat) : Option ShutdownFlag := do
  board.flags[← board.handles[handle]?]?

/-- The board with one more handle for the flag of a handle. -/
def clone (board : FlagBoard) (handle : Nat) : FlagBoard :=
  { board with handles := board.handles ++ (board.handles[handle]?).toList }

def isMarked (board : FlagBoard) (handle : Nat) : Bool :=
  (board.flag? handle).any (·.isMarked)

/-- The board with the flag of a handle marked, and whether this was the first time. -/
def mark (board : FlagBoard) (handle : Nat) : Bool × FlagBoard :=
  match board.handles[handle]? with
  | none => (false, board)
  | some index =>
    match board.flags[index]? with
    | none => (false, board)
    | some flag => (flag.mark.1, { board with flags := board.flags.set index flag.mark.2 })

end FlagBoard

end ThrowawayServer
