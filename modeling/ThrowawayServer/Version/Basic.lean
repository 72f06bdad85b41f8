import ThrowawayServer.Text.Blank
import ThrowawayServer.Text.Numeral
import ThrowawayServer.Text.Split

/-!
# Release versions

A `NumericVersion` is the triple that releases are ordered by. A `Version` is a release as it stands
in the name of a download: its canonical text, suffix included, beside its triple. `Version.parse`
reads one: two or three numerals with dots between them and an optional suffix after a hyphen, or the
word `latest`, which names the greatest triple of all.
-/

set_option autoImplicit false

namespace ThrowawayServer

/-- The triple that releases are ordered by. -/
structure NumericVersion where
  major : UInt32
  minor : UInt32
  patch : UInt32
  deriving DecidableEq, Repr, Inhabited

namespace NumericVersion

/-- The triple of the rolling `latest` build, above every numbered release. -/
def latest : NumericVersion := ⟨0xFFFFFFFF, 0xFFFFFFFF, 0xFFFFFFFF⟩

/-- The lexicographic order on the three components. -/
protected def compare (a b : NumericVersion) : Ordering :=
  (compare a.major b.major).then ((compare a.minor b.minor).then (compare a.patch b.patch))

instance : Ord NumericVersion := ⟨NumericVersion.compare⟩

def newerOrEqual (a b : NumericVersion) : Bool := (a.compare b).isGE

def olderOrEqual (a b : NumericVersion) : Bool := (a.compare b).isLE

def olderThan (a b : NumericVersion) : Bool := (a.compare b).isLT

def newerThan (a b : NumericVersion) : Bool := (a.compare b).isGT

/-- The same major and minor, and patches that differ by one. -/
def isAdjacentPatch (a b : NumericVersion) : Bool :=
  a.major = b.major && a.minor = b.minor &&
    (a.patch.toNat + 1 = b.patch.toNat || b.patch.toNat + 1 = a.patch.toNat)

/-- The three components with dots between them, or the word `latest`. -/
def toText (v : NumericVersion) : String :=
  if v = latest then "latest" else s!"{v.major.toNat}.{v.minor.toNat}.{v.patch.toNat}"

end NumericVersion

/-- Why a text is not a version. -/
inductive VersionError where
  | empty
  | malformed (text : String)
  deriving DecidableEq, Repr

/-- The wording of a version's fault. -/
def VersionError.message : VersionError → String
  | .empty => "Version string is empty"
  | .malformed text => s!"Malformed version '{text}', expected MAJOR.MINOR[.PATCH][-SUFFIX]"

/-- A release as it stands in the name of a download. -/
structure Version where
  /-- The text that is put into download names, suffix included. -/
  canonical : String
  /-- The triple, without the suffix. -/
  numeric : NumericVersion
  deriving DecidableEq, Repr

namespace Version

/-- The rolling build. -/
def latest : Version := ⟨"latest", .latest⟩

def isSuffixChar (c : Char) : Bool := c.isAlphanum || c = '.' || c = '-'

/-- The triple of two or three numerals with dots between them. -/
def readCore? (core : List Char) : Option NumericVersion :=
  match (Text.splitAll '.' core).mapM fun part => (Text.readUInt32 part).toOption with
  | some [major, minor] => some ⟨major, minor, 0⟩
  | some [major, minor, patch] => some ⟨major, minor, patch⟩
  | _ => none

/-- The triple of a core and an optional suffix after the first hyphen. -/
def readNumeric? (text : List Char) : Option NumericVersion :=
  match Text.splitFirst '-' text with
  | none => readCore? text
  | some (core, suffix) =>
    if !suffix.isEmpty && suffix.all isSuffixChar then readCore? core else none

/-- A version read from a text without blanks at its ends. -/
def ofTrimmed (text : List Char) : Except VersionError Version :=
  if text.isEmpty then .error .empty
  else if text.map Char.toLower = "latest".toList then .ok latest
  else
    match readNumeric? text with
    | some numeric => .ok ⟨String.ofList text, numeric⟩
    | none => .error (.malformed (String.ofList text))

/-- A version such as `4.0.12`, `3.6`, `4.0.0-rc0` or `latest`; blanks around it are ignored. -/
def parse (input : String) : Except VersionError Version :=
  ofTrimmed (Text.trim input.toList)

end Version

end ThrowawayServer
