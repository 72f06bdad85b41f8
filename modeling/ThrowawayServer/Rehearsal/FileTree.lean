import ThrowawayServer.Process.OsError
import ThrowawayServer.Text.Split

/-!
# File trees

The files that rehearsed processes find, by the names that lead from the root to them. Paths are
followed name by name, so that a missing name, a file where a directory is needed and a link are met
where they stand.
-/

set_option autoImplicit false

namespace ThrowawayServer

/-- The names that lead from the root to a file. -/
abbrev FileNames := List String

/-- What can stand at the end of a path. -/
inductive FileEntry where
  | directory
  | file (content : List UInt8) (isExecutable : Bool)
  /-- A device that holds nothing and takes everything. -/
  | sink
  /-- A program that every system has. -/
  | utility (name : String)
  | link (target : FileNames)
  deriving DecidableEq, Repr

/-- Whether the entry can be run. -/
def FileEntry.isExecutable : FileEntry → Bool
  | .file _ isExecutable => isExecutable
  | .utility _ => true
  | _ => false

/-- Files by their names. -/
structure FileTree where
  entries : List (FileNames × FileEntry) := []
  deriving DecidableEq, Repr

namespace FileTree

/-- What stands at these names, links not followed. The root is always there. -/
def entryAt (tree : FileTree) (names : FileNames) : Option FileEntry :=
  if names.isEmpty then some .directory else tree.entries.lookup names

/-- The tree with an entry, whatever stood there before. -/
def replace (tree : FileTree) (names : FileNames) (entry : FileEntry) : FileTree :=
  { entries := (names, entry) :: tree.entries.filter (·.1 ≠ names) }

/-- The tree with all the directories that these names lead through. -/
def addParents (tree : FileTree) (names : FileNames) : FileTree :=
  (List.range names.length).foldl (fun tree depth =>
    let parent := names.take depth
    if (tree.entryAt parent).isSome then tree else tree.replace parent .directory) tree

/-- The tree with an entry and the directories that lead to it. -/
def put (tree : FileTree) (names : FileNames) (entry : FileEntry) : FileTree :=
  (tree.addParents names).replace names entry

/-- The names in a path. Single dots stay, and a slash at the end counts as one. -/
def pathNames (path : String) : FileNames :=
  let parts := (Text.splitAll '/' path.toList).map String.ofList
  let names := parts.filter fun part => !part.isEmpty
  if parts.getLast? = some "" && !names.isEmpty then names ++ ["."] else names

/-- Follows names from a place. The last name need not exist, all others are directories. -/
def follow (tree : FileTree) : FileNames → FileNames → Except OsError FileNames
  | here, [] => .ok here
  | here, name :: rest =>
    match tree.entryAt here with
    | none => .error .notFound
    | some .directory =>
      if name = "." then follow tree here rest
      else if name = ".." then follow tree here.dropLast rest
      else
        match tree.entryAt (here ++ [name]) with
        | some (.link target) => follow tree target rest
        | _ => follow tree (here ++ [name]) rest
    | some _ => .error .notADirectory

/-- Where a path leads from a directory. -/
def locate (tree : FileTree) (directory : FileNames) (path : String) : Except OsError FileNames :=
  if path.isEmpty then .error .notFound
  else tree.follow (if path.toList.head? = some '/' then [] else directory) (pathNames path)

def find (tree : FileTree) (directory : FileNames) (path : String) : Except OsError FileEntry := do
  let names ← tree.locate directory path
  match tree.entryAt names with
  | some entry => return entry
  | none => throw .notFound

/-- Whether a path leads to a file that is no directory. -/
def isFile (tree : FileTree) (directory : FileNames) (path : String) : Bool :=
  match tree.find directory path with
  | .ok (.file _ _) | .ok (.utility _) => true
  | _ => false

/-- The bytes of the file that a path leads to. -/
def read (tree : FileTree) (directory : FileNames) (path : String) : Except OsError (List UInt8) := do
  match ← tree.find directory path with
  | .directory => throw .isADirectory
  | .file content _ => return content
  | .sink | .utility _ | .link _ => return []

/-- The tree with a directory at a path and the directories that lead to it. -/
def makeDirectory (tree : FileTree) (directory : FileNames) (path : String) :
    Except OsError FileTree :=
  let start := if path.toList.head? = some '/' then [] else directory
  let names := start ++ (pathNames path).filter (· ≠ ".")
  let isBlocked := (List.range names.length).any fun depth =>
    ((tree.entryAt (names.take depth)).any fun entry => entry ≠ .directory)
  match tree.entryAt names with
  | some .directory => .ok tree
  | some _ => .error .fileExists
  | none => if isBlocked then .error .notADirectory else .ok (tree.put names .directory)

/-- The path of these names from the root. -/
def pathText (names : FileNames) : String := "/" ++ Text.join "/" names

/-- The programs that every system has. -/
def utilityNames : List String :=
  ["sh", "dash", "bash", "sleep", "cat", "echo", "printf", "true", "false", "pwd", "ls", "env",
    "printenv", "seq", "head", "tail", "tr", "wc", "test", "[", "basename", "dirname",
    "mkdir", "touch", "rm", "yes", "uname"]

/-- The files of a plain system. -/
def system : FileTree :=
  let directories : List FileNames :=
    [["usr", "bin"], ["usr", "sbin"], ["usr", "lib"], ["usr", "local", "bin"], ["usr", "share"],
      ["etc"], ["tmp"], ["var", "tmp"], ["var", "log"], ["var", "lib"], ["dev"], ["proc"], ["home"],
      ["root"], ["opt"], ["srv"], ["run"], ["sys"], ["mnt"], ["media"], ["boot"]]
  let links : List (FileNames × FileNames) :=
    [(["bin"], ["usr", "bin"]), (["sbin"], ["usr", "sbin"]), (["lib"], ["usr", "lib"])]
  let files : List FileNames := [["etc", "passwd"], ["etc", "hostname"], ["etc", "os-release"]]
  let tree : FileTree := directories.foldl (fun tree names => tree.put names .directory) {}
  let tree : FileTree := links.foldl (fun tree (names, target) => tree.put names (.link target)) tree
  let tree : FileTree := files.foldl (fun tree names => tree.put names (.file [] false)) tree
  let tree := (tree.put ["dev", "null"] .sink).put ["dev", "zero"] .sink
  utilityNames.foldl (fun tree name => tree.put ["usr", "bin", name] (.utility name)) tree

end FileTree

end ThrowawayServer
