import ThrowawayServer.Catalog.OtherBuilds
import ThrowawayServer.Text.Quoted

/-!
# Resolving distributions

A `Resolver` turns a distribution into the archive to download. It asks the rules of the platform's
operating system, or in their place a finder of its own, and puts relative URLs onto its base URL.
-/

set_option autoImplicit false

namespace ThrowawayServer

/-- The download server that archives come from by default. -/
def defaultBaseUrl : String := "https://fastdl.mongodb.org/"

/-- How distributions are turned into archives. -/
structure Resolver where
  baseUrl : String := defaultBaseUrl
  /-- Asked in place of the rules if present. -/
  overrideFinder : Option Finder := none

namespace Resolver

/-- What is asked about a distribution, before the base URL comes in. -/
def lookUp (resolver : Resolver) (d : Distribution) : Except ResolveError Artifact :=
  match resolver.overrideFinder with
  | some finder => finder.resolve "override" d
  | none => (Catalog.builtinTable d.platform.os).resolve d

def resolve (resolver : Resolver) (d : Distribution) : Except ResolveError Artifact :=
  (resolver.lookUp d).map fun artifact => artifact.withBaseUrl resolver.baseUrl

/-- A resolver's settings on one line. -/
def toText (resolver : Resolver) : String :=
  let baseUrl := Text.quoted resolver.baseUrl
  let isOverridden := if resolver.overrideFinder.isSome then "true" else "false"
  "Resolver \x7b base_url: " ++ baseUrl ++ ", override: " ++ isOverridden ++ " \x7d"

end Resolver

end ThrowawayServer
