/-!
# Platforms

The machine a server binary must run on: operating system, processor family, word size and, where the
packages differ by it, a release tag of the operating system. Every part has a name it is written
with; reading accepts further spellings.
-/

set_option autoImplicit false

namespace ThrowawayServer

/-- An operating system family. -/
inductive Os where
  | linux
  | windows
  | macOs
  | solaris
  | freeBsd
  deriving DecidableEq, Repr

/-- A processor family; the word size stands in `BitSize`. -/
inductive CpuArch where
  | x86
  | arm
  deriving DecidableEq, Repr

/-- The word size of a processor. -/
inductive BitSize where
  | b32
  | b64
  deriving DecidableEq, Repr

/-- The operating system release a package was built for. -/
inductive OsVersion where
  | ubuntu1404
  | ubuntu1604
  | ubuntu1804
  | ubuntu2004
  | ubuntu2204
  | debian7
  | debian8
  | debian9
  | debian10
  | debian11
  | debian12
  | rhel6
  | rhel7
  | rhel8
  | rhel9
  | amazon
  | amazon2
  | amazon2023
  | suse12
  | suse15
  /-- Windows Server 2003, 2008 without R2, and Vista. -/
  | windowsLegacy
  /-- Windows Server 2008 R2, Windows 7 and later. -/
  | windows2008R2Plus
  deriving DecidableEq, Repr

/-- The machine a server binary must run on. -/
structure Platform where
  os : Os
  arch : CpuArch
  bits : BitSize
  osVersion : Option OsVersion := none
  deriving DecidableEq, Repr

/-- Why a platform cannot be described. -/
inductive PlatformError where
  | unknownOs (text : String)
  | unknownArch (text : String)
  | unknownBitSize (text : String)
  | unknownOsVersion (text : String)
  | mismatchedOsVersion (os : Os) (osVersion : OsVersion)
  deriving DecidableEq, Repr

namespace Os

/-- Every operating system, in the order of the tables that list them. -/
def all : List Os := [.linux, .windows, .macOs, .solaris, .freeBsd]

/-- The name an operating system is written with. -/
def name : Os → String
  | .linux => "linux"
  | .windows => "windows"
  | .macOs => "osx"
  | .solaris => "solaris"
  | .freeBsd => "freebsd"

/-- What ends the names of executables. -/
def executableSuffix : Os → String
  | .windows => ".exe"
  | _ => ""

/-- Every spelling of a name that is read, in lower case. -/
def spellings : List (String × Os) :=
  [("linux", .linux), ("windows", .windows), ("win", .windows), ("win32", .windows),
    ("osx", .macOs), ("macos", .macOs), ("darwin", .macOs), ("solaris", .solaris),
    ("sunos", .solaris), ("illumos", .solaris), ("freebsd", .freeBsd)]

/-- Reads a name; the case of ASCII letters does not matter. -/
def parse (text : String) : Except PlatformError Os :=
  match spellings.lookup text.toLower with
  | some os => .ok os
  | none => .error (.unknownOs text.toLower)

end Os

namespace CpuArch

/-- Both processor families. -/
def all : List CpuArch := [.x86, .arm]

/-- The name a processor family is written with. -/
def name : CpuArch → String
  | .x86 => "x86"
  | .arm => "arm"

/-- Every spelling of a name that is read, in lower case. -/
def spellings : List (String × CpuArch) :=
  [("x86", .x86), ("x86_64", .x86), ("amd64", .x86), ("i386", .x86), ("i686", .x86),
    ("arm", .arm), ("arm64", .arm), ("aarch64", .arm)]

/-- Reads a name; the case of ASCII letters does not matter. -/
def parse (text : String) : Except PlatformError CpuArch :=
  match spellings.lookup text.toLower with
  | some arch => .ok arch
  | none => .error (.unknownArch text.toLower)

end CpuArch

namespace BitSize

/-- Both word sizes. -/
def all : List BitSize := [.b32, .b64]

/-- The number of bits, in decimal. -/
def name : BitSize → String
  | .b32 => "32"
  | .b64 => "64"

def parse (text : String) : Except PlatformError BitSize :=
  match all.find? fun bits => bits.name = text with
  | some bits => .ok bits
  | none => .error (.unknownBitSize text)

end BitSize

namespace OsVersion

/-- Every release tag. -/
def all : List OsVersion :=
  [.ubuntu1404, .ubuntu1604, .ubuntu1804, .ubuntu2004, .ubuntu2204, .debian7, .debian8, .debian9,
    .debian10, .debian11, .debian12, .rhel6, .rhel7, .rhel8, .rhel9, .amazon, .amazon2, .amazon2023,
    .suse12, .suse15, .windowsLegacy, .windows2008R2Plus]

/-- The operating system a release tag belongs to. -/
def os : OsVersion → Os
  | .windowsLegacy | .windows2008R2Plus => .windows
  | _ => .linux

/-- The short name of a release tag, also its written form. -/
def key : OsVersion → String
  | .ubuntu1404 => "ubuntu1404"
  | .ubuntu1604 => "ubuntu1604"
  | .ubuntu1804 => "ubuntu1804"
  | .ubuntu2004 => "ubuntu2004"
  | .ubuntu2204 => "ubuntu2204"
  | .debian7 => "debian7"
  | .debian8 => "debian8"
  | .debian9 => "debian9"
  | .debian10 => "debian10"
  | .debian11 => "debian11"
  | .debian12 => "debian12"
  | .rhel6 => "rhel6"
  | .rhel7 => "rhel7"
  | .rhel8 => "rhel8"
  | .rhel9 => "rhel9"
  | .amazon => "amazon"
  | .amazon2 => "amazon2"
  | .amazon2023 => "amazon2023"
  | .suse12 => "suse12"
  | .suse15 => "suse15"
  | .windowsLegacy => "windowslegacy"
  | .windows2008R2Plus => "windows2008r2plus"

/-- The full name of a release tag. -/
def label : OsVersion → String
  | .ubuntu1404 => "Ubuntu 14.04"
  | .ubuntu1604 => "Ubuntu 16.04"
  | .ubuntu1804 => "Ubuntu 18.04"
  | .ubuntu2004 => "Ubuntu 20.04"
  | .ubuntu2204 => "Ubuntu 22.04"
  | .debian7 => "Debian 7"
  | .debian8 => "Debian 8"
  | .debian9 => "Debian 9"
  | .debian10 => "Debian 10"
  | .debian11 => "Debian 11"
  | .debian12 => "Debian 12"
  | .rhel6 => "RHEL 6"
  | .rhel7 => "RHEL 7"
  | .rhel8 => "RHEL 8"
  | .rhel9 => "RHEL 9"
  | .amazon => "Amazon Linux"
  | .amazon2 => "Amazon Linux 2"
  | .amazon2023 => "Amazon Linux 2023"
  | .suse12 => "SUSE 12"
  | .suse15 => "SUSE 15"
  | .windowsLegacy => "Windows (pre 2008 R2)"
  | .windows2008R2Plus => "Windows Server 2008 R2+"

/-- Reads a key; the case of ASCII letters does not matter. -/
def parse (text : String) : Except PlatformError OsVersion :=
  match all.find? fun osVersion => osVersion.key = text.toLower with
  | some osVersion => .ok osVersion
  | none => .error (.unknownOsVersion text)

end OsVersion

namespace Platform

/-- The platform with a release tag of its own operating system. -/
def withOsVersion (platform : Platform) (osVersion : OsVersion) : Except PlatformError Platform :=
  if osVersion.os = platform.os then .ok { platform with osVersion := some osVersion }
  else .error (.mismatchedOsVersion platform.os osVersion)

/-- The parts of a platform in words. -/
def toText (platform : Platform) : String :=
  let machine := s!"{platform.os.name} {platform.arch.name}/{platform.bits.name}bit"
  match platform.osVersion with
  | none => machine
  | some osVersion => s!"{machine} ({osVersion.label})"

end Platform

/-- The wording of a platform's fault. -/
def PlatformError.message : PlatformError → String
  | .unknownOs text => s!"Unknown operating system '{text}'"
  | .unknownArch text => s!"Unknown CPU architecture '{text}'"
  | .unknownBitSize text => s!"Unknown bit size '{text}', expected 32 or 64"
  | .unknownOsVersion text => s!"Unknown OS version '{text}'"
  | .mismatchedOsVersion os osVersion =>
    s!"OS version '{osVersion.label}' does not belong to {os.name}"

end ThrowawayServer
