import ThrowawayServer.Platform.Basic
import ThrowawayServer.Text.Split
import ThrowawayServer.Text.Blank

/-!
# Download archives

An `Artifact` says where an archive is fetched from and where the executables are inside it. Its URL
is absolute, or relative to the base URL of a download server, onto which `withBaseUrl` puts it.
-/

set_option autoImplicit false

namespace ThrowawayServer

/-- The container format of an archive. -/
inductive ArchiveType where
  | tgz
  | zip
  deriving DecidableEq, Repr

namespace ArchiveType

/-- The name a format is written with. -/
def name : ArchiveType → String
  | .tgz => "tgz"
  | .zip => "zip"

/-- What ends the names of archives. -/
def extension : ArchiveType → String
  | .tgz => ".tgz"
  | .zip => ".zip"

def ofName? (text : String) : Option ArchiveType :=
  [ArchiveType.tgz, .zip].find? fun archive => archive.name = text

end ArchiveType

/-- What is needed to fetch an archive and to find executables inside it. -/
structure Artifact where
  archive : ArchiveType
  /-- Absolute, or relative to the base URL of the download server. -/
  url : String
  /-- The directory of the executables inside the archive's top folder. -/
  binDir : String
  /-- What ends the names of executables. -/
  executableSuffix : String
  deriving DecidableEq, Repr

namespace Artifact

/-- The usual layout of an archive for an operating system. -/
def new (archive : ArchiveType) (url : String) (os : Os) : Artifact :=
  ⟨archive, url, "bin", os.executableSuffix⟩

/-- The starts of absolute URLs. -/
def schemes : List String := ["http://", "https://", "file://"]

/-- Whether the URL names its scheme. -/
def isAbsolute (a : Artifact) : Bool :=
  schemes.any fun scheme => scheme.toList.isPrefixOf a.url.toList

/-- Two parts of a URL with one slash between them. -/
def joinUrl (base url : List Char) : List Char :=
  Text.trimEndBy (· = '/') base ++ '/' :: Text.trimStartBy (· = '/') url

/-- A relative URL put onto a base; an absolute one is kept. -/
def withBaseUrl (a : Artifact) (base : String) : Artifact :=
  if a.isAbsolute then a else { a with url := String.ofList (joinUrl base.toList a.url.toList) }

/-- What follows the last slash. -/
def lastSegment (url : List Char) : List Char :=
  (url.reverse.takeWhile (· ≠ '/')).reverse

/-- The last segment of the URL. -/
def fileName (a : Artifact) : String :=
  String.ofList (lastSegment a.url.toList)

/-- The file name without the extension of the archive, also the archive's top folder. -/
def stem (a : Artifact) : String :=
  let name := lastSegment a.url.toList
  String.ofList ((Text.stripEnd? a.archive.extension.toList name).getD name)

/-- An executable inside the top folder. -/
def executableEntry (a : Artifact) (executable : String) : String :=
  s!"{a.binDir}/{executable}{a.executableSuffix}"

/-- The URL and the format in words. -/
def toText (a : Artifact) : String :=
  s!"{a.url} ({a.archive.name})"

end Artifact

end ThrowawayServer
