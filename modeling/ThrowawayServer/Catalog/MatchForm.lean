import ThrowawayServer.Catalog.Match
import ThrowawayServer.Json.Value

/-!
# The JSON form of matchers

A matcher as a list of its kind and its parts, for looking at the rules of a catalog.
-/

set_option autoImplicit false

namespace ThrowawayServer

/-- A numeric version as the list of its three numbers. -/
def NumericVersion.toJson (v : NumericVersion) : Json :=
  .array [.whole v.major.toNat, .whole v.minor.toNat, .whole v.patch.toNat]

/-- A range as the list of its ends. -/
def VersionRange.toJson (range : VersionRange) : Json :=
  .array [range.min.toJson, range.max.toJson]

mutual

/-- A matcher as a list. -/
def Match.toJson : Match → Json
  | .always => .array [.text "always"]
  | .os wanted => .array [.text "os", .text wanted.name]
  | .arch wanted => .array [.text "arch", .text wanted.name]
  | .bits wanted => .array [.text "bits", .text wanted.name]
  | .osVersionIn tags => .array [.text "os_version_in", .array (tags.map fun tag => .text tag.key)]
  | .version range => .array [.text "version", range.min.toJson, range.max.toJson]
  | .all parts => .array [.text "all", .array (Match.listToJson parts)]
  | .any parts => .array [.text "any", .array (Match.listToJson parts)]

def Match.listToJson : List Match → List Json
  | [] => []
  | first :: rest => first.toJson :: Match.listToJson rest

end

end ThrowawayServer
