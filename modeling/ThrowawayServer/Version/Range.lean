import ThrowawayServer.Version.Basic

/-!
# Version ranges

Inclusive ranges of triples. `compressRanges` covers a list of releases by the runs of adjacent
patches in it.
-/

set_option autoImplicit false

namespace ThrowawayServer

/-- The triples from `min` to `max`, both included. -/
structure VersionRange where
  min : NumericVersion
  max : NumericVersion
  deriving DecidableEq, Repr

namespace VersionRange

def single (v : NumericVersion) : VersionRange := ⟨v, v⟩

/-- Whether a triple lies in the range. -/
def contains (range : VersionRange) (v : NumericVersion) : Bool :=
  v.newerOrEqual range.min && v.olderOrEqual range.max

/-- One release by its own text, others by both ends. -/
def toText (range : VersionRange) : String :=
  if range.min = range.max then range.min.toText
  else s!"{range.min.toText}..={range.max.toText}"

end VersionRange

/-- A list without the elements that repeat their left neighbour. -/
def dropRepeats : List NumericVersion → List NumericVersion
  | [] => []
  | [v] => [v]
  | v :: w :: rest => if v = w then dropRepeats (w :: rest) else v :: dropRepeats (w :: rest)

/-- The runs of neighbours that are adjacent patches, each as a range from its first to its last. -/
def patchRuns : List NumericVersion → List VersionRange
  | [] => []
  | v :: rest =>
    match patchRuns rest with
    | [] => [.single v]
    | run :: runs =>
      if v.isAdjacentPatch run.min then ⟨v, run.max⟩ :: runs else .single v :: run :: runs

/-- The fewest ranges of adjacent patches that hold exactly the given releases, in ascending order. -/
def compressRanges (versions : List NumericVersion) : List VersionRange :=
  patchRuns (dropRepeats (versions.mergeSort NumericVersion.olderOrEqual))

end ThrowawayServer
