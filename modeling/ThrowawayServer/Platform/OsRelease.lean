import ThrowawayServer.Platform.Basic
import ThrowawayServer.Text.Blank
import ThrowawayServer.Text.Numeral
import ThrowawayServer.Text.Split

/-!
# Linux releases from `os-release` text

The lines of an `os-release` file assign values to keys. Three of the keys decide which release tag
a host has: `ID`, `VERSION_ID` and `ID_LIKE`, each by the last line that assigns it. Derivative
distributions count as the release they are built on, and releases between two known ones as the
older of them.
-/

set_option autoImplicit false

namespace ThrowawayServer.OsRelease

/-- A value without blanks, then double quotes, then single quotes at its ends. -/
def unquote (value : List Char) : List Char :=
  Text.trimBy (· = '\x27') (Text.trimBy (· = '\x22') (Text.trim value))

/-- The key and value that a line assigns, cut at the first equals sign. -/
def assignment? (line : List Char) : Option (List Char × List Char) :=
  (Text.splitFirst '=' line).map fun (key, value) => (Text.trim key, unquote value)

/-- Every assignment of a text, in order. -/
def assignments (content : List Char) : List (List Char × List Char) :=
  (Text.lines content).filterMap assignment?

/-- The value last assigned to `key`, empty if there is none. -/
def valueOf (key : String) (fields : List (List Char × List Char)) : List Char :=
  (fields.reverse.lookup key.toList).getD []

/-- Major and minor of a version number; a minor that is no numeral counts as zero. -/
def release? (versionId : List Char) : Option (UInt32 × UInt32) :=
  match Text.splitAll '.' versionId with
  | [] => none
  | major :: rest =>
    match Text.readUInt32 major with
    | .error _ => none
    | .ok major =>
      match rest with
      | [] => some (major, 0)
      | minor :: _ => some (major, (Text.readUInt32 minor).toOption.getD 0)

/-- The known long-term releases of Ubuntu, newest first. -/
def ubuntuReleases : List ((UInt32 × UInt32) × OsVersion) :=
  [((22, 4), .ubuntu2204), ((20, 4), .ubuntu2004), ((18, 4), .ubuntu1804), ((16, 4), .ubuntu1604),
    ((14, 4), .ubuntu1404)]

/-- Whether a release is at or before another, major first. -/
def atOrBefore (a b : UInt32 × UInt32) : Bool :=
  a.1 < b.1 || (a.1 = b.1 && a.2 ≤ b.2)

/-- The newest known long-term release of Ubuntu that is not above the given one. -/
def ubuntu? (release : UInt32 × UInt32) : Option OsVersion :=
  (ubuntuReleases.find? fun known => atOrBefore known.1 release).map (·.2)

/-- Linux Mint by the Ubuntu release it is built on. -/
def mint? (major : UInt32) : Option OsVersion :=
  if major = 17 then some .ubuntu1404
  else if major = 18 then some .ubuntu1604
  else if major = 19 then some .ubuntu1804
  else if major = 20 then some .ubuntu2004
  else if 21 ≤ major then some .ubuntu2204
  else none

/-- Debian from 7 on; later releases count as 12. -/
def debian? (major : UInt32) : Option OsVersion :=
  if major = 7 then some .debian7
  else if major = 8 then some .debian8
  else if major = 9 then some .debian9
  else if major = 10 then some .debian10
  else if major = 11 then some .debian11
  else if 12 ≤ major then some .debian12
  else none

/-- Red Hat from 6 on; later releases count as 9. -/
def rhel? (major : UInt32) : Option OsVersion :=
  if major = 6 then some .rhel6
  else if major = 7 then some .rhel7
  else if major = 8 then some .rhel8
  else if 9 ≤ major then some .rhel9
  else none

/-- Amazon Linux: the two numbered generations, and the dated releases before them. -/
def amazon? (major : UInt32) : Option OsVersion :=
  if major = 2 then some .amazon2
  else if major = 2023 then some .amazon2023
  else if 2015 ≤ major then some .amazon
  else none

/-- The two SUSE generations. -/
def suse? (major : UInt32) : Option OsVersion :=
  if major = 12 then some .suse12
  else if major = 15 then some .suse15
  else none

/-- Distributions that are rebuilt from Red Hat's sources, and Red Hat itself. -/
def rhelFamily : List String := ["rhel", "centos", "rocky", "almalinux", "ol"]

/-- The release tag of a distribution at a release; `likes` are the distributions that an unknown
one names as its relatives. -/
def tag? (id : List Char) (likes : List (List Char)) (release : UInt32 × UInt32) :
    Option OsVersion :=
  let id := String.ofList id
  if id = "ubuntu" || id = "pop" then ubuntu? release
  else if id = "linuxmint" then mint? release.1
  else if id = "debian" then debian? release.1
  else if rhelFamily.contains id then rhel? release.1
  else if id = "amzn" then amazon? release.1
  else if id = "sles" || id = "opensuse-leap" then suse? release.1
  else if likes.contains "rhel".toList then rhel? release.1
  else none

/-- The release tag decided by the assignments of a text. -/
def ofAssignments (fields : List (List Char × List Char)) : Option OsVersion :=
  (release? (valueOf "VERSION_ID" fields)).bind fun release =>
    tag? (valueOf "ID" fields) (Text.words (valueOf "ID_LIKE" fields)) release

/-- The release tag of the host whose `os-release` text is given, if it is a known one. -/
def detect? (content : String) : Option OsVersion :=
  ofAssignments (assignments content.toList)

end ThrowawayServer.OsRelease
