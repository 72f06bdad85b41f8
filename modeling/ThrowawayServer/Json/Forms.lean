import ThrowawayServer.Catalog.Artifact
import ThrowawayServer.Catalog.Program
import ThrowawayServer.Json.Value
import ThrowawayServer.Platform.Override
import ThrowawayServer.Version.Basic

/-!
# JSON forms of domain values

Names, platforms, overrides, versions and archives as JSON. A name may also be given as an object with
the name as its only key and null as the value. A record may be an object, whose unknown fields are
ignored, or the array of its fields in order, of which optional ones at the end may be missing.
-/

set_option autoImplicit false

namespace ThrowawayServer

namespace Json

/-- A name, plain or as the only key of an object. -/
def name? : Json → Option String
  | .text name => some name
  | .object [(name, .null)] => some name
  | _ => none

/-- The value whose written name is given. -/
def ofNames? {α : Type} (all : List α) (written : α → String) (json : Json) : Option α :=
  json.name?.bind fun name => all.find? fun value => written value = name

/-- The fields of a record in order, null for missing ones. -/
def record? (names : List String) : Json → Option (List Json)
  | .object fields => some (names.map fun name => (fields.lookup name).getD .null)
  | .array items =>
    if items.length ≤ names.length then
      some (items ++ List.replicate (names.length - items.length) .null)
    else none
  | _ => none

/-- A value or null. -/
def optional? {α : Type} (read : Json → Option α) : Json → Option (Option α)
  | .null => some none
  | json => (read json).map some

def text? : Json → Option String
  | .text value => some value
  | _ => none

end Json

/-- An operating system by its exact name. -/
def Os.ofJson? : Json → Option Os := Json.ofNames? Os.all Os.name

/-- A processor family by its exact name. -/
def CpuArch.ofJson? : Json → Option CpuArch := Json.ofNames? CpuArch.all CpuArch.name

/-- A word size by its exact name. -/
def BitSize.ofJson? : Json → Option BitSize := Json.ofNames? BitSize.all BitSize.name

/-- A release tag by its exact key. -/
def OsVersion.ofJson? : Json → Option OsVersion := Json.ofNames? OsVersion.all OsVersion.key

def Program.ofJson? : Json → Option Program := Json.ofNames? Program.all Program.baseName

/-- A platform; its release tag is not checked against its operating system. -/
def Platform.ofJson? (json : Json) : Option Platform :=
  match json.record? ["os", "arch", "bits", "os_version"] with
  | some [os, arch, bits, osVersion] => do
    return {
      os := ← Os.ofJson? os
      arch := ← CpuArch.ofJson? arch
      bits := ← BitSize.ofJson? bits
      osVersion := ← Json.optional? OsVersion.ofJson? osVersion }
  | _ => none

/-- A platform with its release tag left out if there is none. -/
def Platform.toJson (platform : Platform) : Json :=
  .object ([("os", .text platform.os.name), ("arch", .text platform.arch.name),
    ("bits", .text platform.bits.name)] ++
      (platform.osVersion.map fun tag => ("os_version", Json.text tag.key)).toList)

/-- An override; every field may be missing. -/
def PlatformOverride.ofJson? (json : Json) : Option PlatformOverride :=
  match json.record? ["os", "arch", "bits", "os_version"] with
  | some [os, arch, bits, osVersion] => do
    return {
      os := ← Json.optional? Json.text? os
      arch := ← Json.optional? Json.text? arch
      bits := ← Json.optional? Json.text? bits
      osVersion := ← Json.optional? Json.text? osVersion }
  | _ => none

/-- An optional text, null if absent. -/
def Json.ofOption (value : Option String) : Json :=
  match value with
  | none => .null
  | some value => .text value

def PlatformOverride.toJson (o : PlatformOverride) : Json :=
  .object [("os", .ofOption o.os), ("arch", .ofOption o.arch), ("bits", .ofOption o.bits),
    ("os_version", .ofOption o.osVersion)]

/-- A version from its text. The error is none for a value that is not a text at all. -/
def Version.ofJson : Json → Except (Option VersionError) Version
  | .text value => (Version.parse value).mapError some
  | _ => .error none

/-- A version as its canonical text. -/
def Version.toJson (version : Version) : Json := .text version.canonical

/-- The fields of an archive by name. -/
def Artifact.toJson (a : Artifact) : Json :=
  .object [("archive", .text a.archive.name), ("bin_dir", .text a.binDir),
    ("executable_suffix", .text a.executableSuffix), ("url", .text a.url)]

end ThrowawayServer
