import ThrowawayServer.Catalog.Artifact
import ThrowawayServer.Catalog.FilePath
import ThrowawayServer.Catalog.Program

/-!
# Extracted archives

Archives are extracted below a root directory, each into a folder named after its file. An
`ArchiveStore` finds executables there.
-/

set_option autoImplicit false

namespace ThrowawayServer

/-- A directory with one folder for each extracted archive. -/
structure ArchiveStore where
  root : String
  deriving DecidableEq, Repr

/-- Why an executable cannot be given. -/
inductive StoreError where
  | notExtracted (path : String) (url : String)
  deriving DecidableEq, Repr

/-- The wording for a missing executable. -/
def StoreError.message : StoreError → String
  | .notExtracted path url =>
    s!"Executable '{path}' not found, download and extract {url} first"

namespace ArchiveStore

/-- The root named by the environment, unless the value is empty, and else a folder in the home
directory. -/
def defaultRoot (home : Option String) (fromEnvironment : Option String) : Option String :=
  match fromEnvironment.filter fun dir => !dir.isEmpty with
  | some dir => some dir
  | none => home.map fun home => FilePath.join (FilePath.join home ".embedmongo") "extracted"

/-- Where an executable is if its archive has been extracted. -/
def expectedPath (store : ArchiveStore) (artifact : Artifact) (program : Program) : String :=
  let folder := FilePath.join store.root artifact.stem
  FilePath.join (FilePath.join folder artifact.binDir)
    (program.baseName ++ artifact.executableSuffix)

/-- The path of an executable that is there; `isFile` tells which paths are files. -/
def executablePath (store : ArchiveStore) (isFile : String → Bool) (artifact : Artifact)
    (program : Program) : Except StoreError String :=
  let path := store.expectedPath artifact program
  if isFile path then .ok path else .error (.notExtracted path artifact.url)

end ArchiveStore

end ThrowawayServer
