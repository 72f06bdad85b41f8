import ThrowawayServer.Platform.Basic

/-!
# Overriding parts of a platform

A `PlatformOverride` replaces parts of the platform a host was found to have. Its fields are names as
a user writes them. `apply` puts them onto a platform, `validate` checks what can be checked without
one.
-/

set_option autoImplicit false

namespace ThrowawayServer

/-- Names of the platform parts that replace the detected ones. -/
structure PlatformOverride where
  os : Option String := none
  arch : Option String := none
  bits : Option String := none
  osVersion : Option String := none
  deriving DecidableEq, Repr

namespace PlatformOverride

/-- Whether nothing is overridden. -/
def isEmpty (o : PlatformOverride) : Bool :=
  o.os.isNone && o.arch.isNone && o.bits.isNone && o.osVersion.isNone

/-- The operating system replaced. Another operating system drops the release tag, which belongs to
the old one. -/
def applyOs (o : PlatformOverride) (base : Platform) : Except PlatformError Platform :=
  match o.os with
  | none => .ok base
  | some text => do
    let os ← Os.parse text
    return { base with os, osVersion := if os = base.os then base.osVersion else none }

/-- The processor family replaced. -/
def applyArch (o : PlatformOverride) (base : Platform) : Except PlatformError Platform :=
  match o.arch with
  | none => .ok base
  | some text => do return { base with arch := ← CpuArch.parse text }

/-- The word size replaced. -/
def applyBits (o : PlatformOverride) (base : Platform) : Except PlatformError Platform :=
  match o.bits with
  | none => .ok base
  | some text => do return { base with bits := ← BitSize.parse text }

/-- The release tag replaced by one of the same operating system. -/
def applyOsVersion (o : PlatformOverride) (base : Platform) : Except PlatformError Platform :=
  match o.osVersion with
  | none => .ok base
  | some text => do
    let osVersion ← OsVersion.parse text
    Platform.withOsVersion { base with osVersion := none } osVersion

/-- The platform with every given part replaced; the first fault in the order operating system,
processor, word size, release tag is reported. -/
def apply (o : PlatformOverride) (base : Platform) : Except PlatformError Platform := do
  let platform ← o.applyOs base
  let platform ← o.applyArch platform
  let platform ← o.applyBits platform
  o.applyOsVersion platform

/-- Reads a name that may be absent. -/
def parseGiven {α : Type} (read : String → Except PlatformError α) :
    Option String → Except PlatformError (Option α)
  | none => .ok none
  | some text => (read text).map some

/-- Checks every name on its own, and the release tag against the operating system if both are
given. A release tag alone is checked against the host when the override is applied. -/
def validate (o : PlatformOverride) : Except PlatformError Unit := do
  let os ← parseGiven Os.parse o.os
  let _ ← parseGiven CpuArch.parse o.arch
  let _ ← parseGiven BitSize.parse o.bits
  let osVersion ← parseGiven OsVersion.parse o.osVersion
  match os, osVersion with
  | some os, some osVersion =>
    if osVersion.os = os then .ok () else .error (.mismatchedOsVersion os osVersion)
  | _, _ => .ok ()

end PlatformOverride

end ThrowawayServer
