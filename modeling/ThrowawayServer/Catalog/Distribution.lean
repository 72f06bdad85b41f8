import ThrowawayServer.Platform.Basic
import ThrowawayServer.Version.Basic

/-!
# Distributions

A `Distribution` is a release paired with the platform it is to run on: what rules are asked about.
-/

set_option autoImplicit false

namespace ThrowawayServer

/-- A release and the platform it is to run on. -/
structure Distribution where
  version : Version
  platform : Platform
  deriving DecidableEq, Repr

def Distribution.toText (d : Distribution) : String :=
  s!"{d.version.canonical} on {d.platform.toText}"

end ThrowawayServer
