import ThrowawayServer.Catalog.Artifact
import ThrowawayServer.Catalog.Match

/-!
# Ordered rules

A `RuleTable` holds rules that are tried from the top. The first rule whose predicate holds is final:
it finds the archive, finds that there is none, or rejects the distribution with its label as the
reason. Predicates overlap on purpose, so the order of a table carries meaning.
-/

set_option autoImplicit false

namespace ThrowawayServer

/-- A URL with places for the canonical version. -/
structure UrlTemplate where
  archive : ArchiveType
  os : Os
  template : String
  deriving DecidableEq, Repr

namespace UrlTemplate

/-- The word in braces that stands for the canonical version. -/
def placeholder : String := "\x7bversion\x7d"

/-- The template with every placeholder replaced by the canonical version. -/
def render (t : UrlTemplate) (version : Version) : String :=
  String.ofList
    (Text.replaceAll placeholder.toList version.canonical.toList t.template.toList)

/-- The archive that the template names for a version. -/
def artifact (t : UrlTemplate) (version : Version) : Artifact :=
  .new t.archive (t.render version) t.os

end UrlTemplate

/-- What names the archive of a distribution, or finds that there is none. -/
inductive Finder where
  | template (template : UrlTemplate)
  | custom (find : Distribution → Option Artifact)

/-- The archive a finder names. -/
def Finder.find : Finder → Distribution → Option Artifact
  | .template t, d => some (t.artifact d.version)
  | .custom find, d => find d

/-- What a rule does with a distribution that it matches. -/
inductive RuleAction where
  | find (finder : Finder)
  | reject

/-- An action with no more shown of a finder than that there is one. -/
def RuleAction.toText : RuleAction → String
  | .find _ => "Find(..)"
  | .reject => "Reject"

/-- A predicate, what to do where it holds, and a label for reports. -/
structure Rule where
  label : String
  matcher : Match
  action : RuleAction

/-- Rules tried from the top. -/
structure RuleTable where
  /-- Stands in the error for a distribution that no rule matches. -/
  name : String
  rules : List Rule

/-- Why a distribution has no archive. -/
inductive ResolveError where
  | unsupported (distribution : String) (reason : String)
  | noArtifact (distribution : String) (rule : String)
  deriving DecidableEq, Repr

/-- The wording of a failed resolution. -/
def ResolveError.message : ResolveError → String
  | .unsupported distribution reason => s!"Unsupported distribution {distribution}: {reason}"
  | .noArtifact distribution rule =>
    s!"Rule '{rule}' matched {distribution} but produced no artifact"

/-- What a finder's answer means for a distribution; `rule` names who asked. -/
def Finder.resolve (finder : Finder) (rule : String) (d : Distribution) :
    Except ResolveError Artifact :=
  match finder.find d with
  | some artifact => .ok artifact
  | none => .error (.noArtifact d.toText rule)

/-- What a rule decides for a distribution that it matches. -/
def Rule.decide (rule : Rule) (d : Distribution) : Except ResolveError Artifact :=
  match rule.action with
  | .find finder => finder.resolve rule.label d
  | .reject => .error (.unsupported d.toText rule.label)

namespace RuleTable

/-- A table without rules. -/
def empty (name : String) : RuleTable := ⟨name, []⟩

/-- The table with a rule at its end that finds an archive. -/
def rule (table : RuleTable) (label : String) (matcher : Match) (finder : Finder) : RuleTable :=
  { table with rules := table.rules ++ [⟨label, matcher, .find finder⟩] }

/-- The table with a rule at its end that rejects for a reason. -/
def reject (table : RuleTable) (reason : String) (matcher : Match) : RuleTable :=
  { table with rules := table.rules ++ [⟨reason, matcher, .reject⟩] }

/-- The table with a rule at its end that rejects whatever is left. -/
def otherwiseReject (table : RuleTable) (reason : String) : RuleTable :=
  table.reject reason .always

/-- The table with the rules of another after its own. -/
def extend (table other : RuleTable) : RuleTable :=
  { table with rules := table.rules ++ other.rules }

def firstMatch? (table : RuleTable) (d : Distribution) : Option Rule :=
  table.rules.find? fun rule => rule.matcher.holds d

/-- What the first matching rule decides. -/
def resolve (table : RuleTable) (d : Distribution) : Except ResolveError Artifact :=
  match table.firstMatch? d with
  | some rule => rule.decide d
  | none => .error (.unsupported d.toText s!"no rule in the {table.name} table matched")

end RuleTable

end ThrowawayServer
