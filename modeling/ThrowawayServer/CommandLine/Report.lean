import ThrowawayServer.Catalog.Resolver
import ThrowawayServer.CommandLine.Arguments
import ThrowawayServer.Json.Forms
import ThrowawayServer.Version.Range

/-!
# What commands print

The lines that are printed for an archive, a platform and ranges of versions.
-/

set_option autoImplicit false

namespace ThrowawayServer

/-- An archive that was found for a distribution. -/
structure Resolution where
  distribution : Distribution
  artifact : Artifact
  deriving DecidableEq, Repr

namespace Resolution

/-- Where the server is below the root of the extracted archives. -/
def executable (resolution : Resolution) : String :=
  resolution.artifact.stem ++ "/" ++ resolution.artifact.executableEntry Program.mongod.baseName

/-- An artifact with its fields in the order of their names. -/
def artifactJson (artifact : Artifact) : Json :=
  .object [("archive", .text artifact.archive.name), ("bin_dir", .text artifact.binDir),
    ("executable_suffix", .text artifact.executableSuffix), ("url", .text artifact.url)]

def lines (resolution : Resolution) (json : Bool) : List String :=
  let { distribution, artifact } := resolution
  if json then
    [(Json.object [("artifact", artifactJson artifact), ("distribution", .text distribution.toText),
      ("executable", .text resolution.executable)]).pretty]
  else
    [distribution.toText, "  url:        " ++ artifact.url, "  archive:    " ++ artifact.archive.name,
      "  executable: " ++ resolution.executable]

end Resolution

/-- The line for a platform, or its lines if it is wanted as JSON. -/
def Platform.lines (platform : Platform) (json : Bool) : List String :=
  if json then [platform.toJson.pretty] else [platform.toText]

/-- The lines for the ranges that versions make up. -/
def rangeLines (versions : List Version) : List String :=
  (compressRanges (versions.map (·.numeric))).map VersionRange.toText

end ThrowawayServer
