import ThrowawayServer.Text.Split

/-!
# File paths

Paths are texts with slashes. `join` puts a path below another: an absolute path replaces what stands
before it, and nothing is normalised. `components` is what a path denotes: its names in order, and
whether they start at the root; repeated slashes and single dots inside do not count.
-/

set_option autoImplicit false

namespace ThrowawayServer.FilePath

/-- Whether a path starts at the root. -/
def isAbsolute (path : String) : Bool :=
  path.toList.head? = some '/'

/-- A path below another. A slash goes between them unless the first is empty or ends in one. -/
def join (base path : String) : String :=
  if isAbsolute path then path
  else if base.isEmpty || base.toList.getLast? = some '/' then base ++ path
  else base ++ "/" ++ path

/-- One part of what a path denotes. -/
inductive Component where
  | root
  | currentDir
  | name (text : List Char)
  deriving DecidableEq, Repr

/-- The names between slashes, without empty ones and single dots. -/
def names (path : List Char) : List Component :=
  ((Text.splitAll '/' path).filter fun part => !part.isEmpty && part ≠ ['.']).map .name

/-- What a path denotes. A relative path that begins with a single dot keeps it. -/
def components (path : String) : List Component :=
  match Text.splitAll '/' path.toList with
  | [] :: _ :: _ => .root :: names path.toList
  | ['.'] :: _ => .currentDir :: names path.toList
  | _ => names path.toList

end ThrowawayServer.FilePath
