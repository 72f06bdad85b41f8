import ThrowawayServer.Catalog.Distribution
import ThrowawayServer.Version.Range

/-!
# Predicates on distributions

A `Match` is a predicate written as data, so that it can be shown as well as tested. `all []` always
holds and `any []` never does. `and` and `or` flatten chains of their own kind, so that every
bracketing of a chain is the same value.
-/

set_option autoImplicit false

namespace ThrowawayServer

/-- A predicate on distributions. -/
inductive Match where
  | always
  | os (os : Os)
  | arch (arch : CpuArch)
  | bits (bits : BitSize)
  /-- The release tag is one of these; a platform without a tag never matches. -/
  | osVersionIn (osVersions : List OsVersion)
  | version (range : VersionRange)
  | all (parts : List Match)
  | any (parts : List Match)
  deriving Repr, Inhabited

namespace Match

mutual

def holds (d : Distribution) : Match → Bool
  | .always => true
  | .os wanted => d.platform.os = wanted
  | .arch wanted => d.platform.arch = wanted
  | .bits wanted => d.platform.bits = wanted
  | .osVersionIn osVersions =>
    match d.platform.osVersion with
    | none => false
    | some osVersion => osVersions.contains osVersion
  | .version range => range.contains d.version.numeric
  | .all parts => allHold d parts
  | .any parts => anyHolds d parts

/-- Whether every predicate of a list holds. -/
def allHold (d : Distribution) : List Match → Bool
  | [] => true
  | m :: rest => holds d m && allHold d rest

def anyHolds (d : Distribution) : List Match → Bool
  | [] => false
  | m :: rest => holds d m || anyHolds d rest

end

/-- The conjunction of two predicates, with conjunctions among them flattened. -/
def and : Match → Match → Match
  | .all left, .all right => .all (left ++ right)
  | .all left, b => .all (left ++ [b])
  | a, .all right => .all (a :: right)
  | a, b => .all [a, b]

/-- The disjunction of two predicates, with disjunctions among them flattened. -/
def or : Match → Match → Match
  | .any left, .any right => .any (left ++ right)
  | .any left, b => .any (left ++ [b])
  | a, .any right => .any (a :: right)
  | a, b => .any [a, b]

/-- The releases from `min` to `max`, both included. -/
def between (min max : NumericVersion) : Match := .version ⟨min, max⟩

/-- `min` and everything above it, the rolling build included. -/
def since (min : NumericVersion) : Match := between min .latest

/-- Any of several ranges of releases. -/
def versions (ranges : List VersionRange) : Match := .any (ranges.map .version)

end Match

end ThrowawayServer
