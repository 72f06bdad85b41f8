import ThrowawayServer.Platform.OsRelease

/-!
# Detecting a host

Only on Linux does a file name the release of the host. A program file there says in its header what
processor it is for, so the header of a running program tells about the host; the file that names the
release tells the rest.
-/

set_option autoImplicit false

namespace ThrowawayServer

/-- The processor family by the number that program files have for it. -/
def CpuArch.ofMachineNumber? (number : Nat) : Option CpuArch :=
  if number = 0x03 || number = 0x3E then some .x86
  else if number = 0x28 || number = 0xB7 then some .arm
  else none

/-- The word size by the number that program files have for it. -/
def BitSize.ofClassNumber? (number : Nat) : Option BitSize :=
  if number = 1 then some .b32 else if number = 2 then some .b64 else none

/-- The platform of a host. `release` is the content of the file that names the release. -/
def Platform.ofHost (os : Os) (arch : CpuArch) (bits : BitSize) (release : Option String) :
    Platform :=
  { os, arch, bits, osVersion := if os = .linux then release.bind OsRelease.detect? else none }

/-- The Linux host of a running program whose file begins with `header`. `release` is the content of
the file that names the release. -/
def Platform.detect (header : List UInt8) (release : Option String) :
    Except PlatformError Platform :=
  let byte (offset : Nat) : Nat := (header.getD offset 0).toNat
  let number := byte 18 + 256 * byte 19
  match CpuArch.ofMachineNumber? number, BitSize.ofClassNumber? (byte 4) with
  | some arch, some bits =>
    .ok (.ofHost .linux arch bits release)
  | none, _ => .error (.unknownArch (toString number))
  | _, none => .error (.unknownBitSize (toString (byte 4)))

end ThrowawayServer
