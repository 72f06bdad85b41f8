import ThrowawayServer.Platform.Basic

/-!
# Programs of an archive

The executables that an archive holds: two servers that listen on a port until they are stopped, and
tools that run to their end.
-/

set_option autoImplicit false

namespace ThrowawayServer

/-- An executable of the server archive. -/
inductive Program where
  | mongod
  | mongos
  | mongo
  | mongodump
  | mongorestore
  | mongoimport
  deriving DecidableEq, Repr

namespace Program

def all : List Program := [.mongod, .mongos, .mongo, .mongodump, .mongorestore, .mongoimport]

/-- The name of the executable without what an operating system puts after it. -/
def baseName : Program → String
  | .mongod => "mongod"
  | .mongos => "mongos"
  | .mongo => "mongo"
  | .mongodump => "mongodump"
  | .mongorestore => "mongorestore"
  | .mongoimport => "mongoimport"

/-- The file name of the executable on an operating system. -/
def executableName (program : Program) (os : Os) : String :=
  program.baseName ++ os.executableSuffix

/-- Whether the program listens on a port until it is stopped. -/
def isServer : Program → Bool
  | .mongod | .mongos => true
  | _ => false

def ofName? (text : String) : Option Program :=
  all.find? fun program => program.baseName = text

/-- The wording for a name that no program has. -/
def unknownMessage (text : String) : String := s!"Unknown command '{text}'"

/-- Reads a name; the case of ASCII letters does not matter. A name that no program has comes back as
the error. -/
def parse (text : String) : Except String Program :=
  match ofName? text.toLower with
  | some program => .ok program
  | none => .error text

end Program

end ThrowawayServer
