import ThrowawayServer.Proofs.Catalog.FirstMatch
import ThrowawayServer.Proofs.Catalog.Package

/-!
# Spellings of a version

Predicates read the triple of a version and nothing of its text. The first match is the same rule for
every spelling and suffix of a triple, and where rules go by templates the text comes in only when the
template of that rule is rendered. So two versions with one triple get the same package, or are
refused for the same reason.
-/

set_option autoImplicit false

namespace ThrowawayServer

/-- The distributions differ in the text of the version at most. -/
structure Distribution.Alike (d e : Distribution) : Prop where
  platform : d.platform = e.platform
  numeric : d.version.numeric = e.version.numeric

namespace Match

variable {d e : Distribution}

mutual

theorem holds_congr (alike : d.Alike e) : ∀ m : Match, m.holds d = m.holds e
  | .always => by rw [holds, holds]
  | .os _ => by rw [holds, holds, alike.platform]
  | .arch _ => by rw [holds, holds, alike.platform]
  | .bits _ => by rw [holds, holds, alike.platform]
  | .osVersionIn _ => by rw [holds, holds, alike.platform]
  | .version _ => by rw [holds, holds, alike.numeric]
  | .all parts => by
      rw [holds, holds]
      exact allHold_congr alike parts
  | .any parts => by
      rw [holds, holds]
      exact anyHolds_congr alike parts

theorem allHold_congr (alike : d.Alike e) : ∀ parts : List Match, allHold d parts = allHold e parts
  | [] => by rw [allHold, allHold]
  | m :: rest => by rw [allHold, allHold, holds_congr alike m, allHold_congr alike rest]

theorem anyHolds_congr (alike : d.Alike e) :
    ∀ parts : List Match, anyHolds d parts = anyHolds e parts
  | [] => by rw [anyHolds, anyHolds]
  | m :: rest => by rw [anyHolds, anyHolds, holds_congr alike m, anyHolds_congr alike rest]

end

end Match

/-- The rule names archives by a template, or it rejects. -/
def Rule.ByTemplate (rule : Rule) : Prop :=
  rule.action = .reject ∨ ∃ template, rule.action = .find (.template template)

/-- What two versions come to by one rule. Only the distribution that an error names and the URL that
a template is rendered to tell them apart. -/
inductive SameChoice (rules : List Rule) (d e : Distribution) :
    Except ResolveError Artifact → Except ResolveError Artifact → Prop where
  | unsupported (reason : String) :
      SameChoice rules d e (.error (.unsupported d.toText reason))
        (.error (.unsupported e.toText reason))
  | found {rule : Rule} {template : UrlTemplate} {artifact other : Artifact}
      (listed : rule ∈ rules) (names : rule.action = .find (.template template))
      (archive : artifact.archive = other.archive) (bin_dir : artifact.binDir = other.binDir)
      (executable_suffix : artifact.executableSuffix = other.executableSuffix)
      (url : artifact.url = template.render d.version)
      (other_url : other.url = template.render e.version) :
      SameChoice rules d e (.ok artifact) (.ok other)

namespace RuleTable

/-- Every rule of the table names archives by a template, or rejects. -/
def ByTemplates (table : RuleTable) : Prop := ∀ rule ∈ table.rules, rule.ByTemplate

variable {table : RuleTable} {d e : Distribution}

theorem Serves.byTemplates {os : Os} (serves : table.Serves os) : table.ByTemplates := by
  intro rule member
  cases serves rule member with
  | rejects => exact .inl rfl
  | names => exact .inr ⟨_, rfl⟩

theorem firstMatch?_congr (alike : d.Alike e) (table : RuleTable) :
    table.firstMatch? d = table.firstMatch? e := by
  rw [firstMatch?, firstMatch?]
  congr 1
  funext rule
  exact Match.holds_congr alike rule.matcher

theorem sameChoice_resolve (alike : d.Alike e) (byTemplates : table.ByTemplates) :
    SameChoice table.rules d e (table.resolve d) (table.resolve e) := by
  have congr := firstMatch?_congr alike table
  cases first : table.firstMatch? d with
  | none =>
      rw [resolve_of_unmatched first, resolve_of_unmatched (congr.symm.trans first)]
      exact .unsupported _
  | some rule =>
      have listed : rule ∈ table.rules := List.mem_of_find?_eq_some first
      rw [resolve_of_firstMatch? first, resolve_of_firstMatch? (congr.symm.trans first),
        Rule.decide, Rule.decide]
      rcases byTemplates rule listed with rejects | ⟨template, names⟩
      · rw [rejects]
        exact .unsupported rule.label
      · rw [names]
        exact .found listed names rfl rfl rfl rfl rfl

end RuleTable

/-- What two versions with one triple get on a platform. -/
structure ChosenAlike (platform : Platform) (version other : Version) : Prop where
  by_templates : ∀ table : RuleTable, table.ByTemplates →
    SameChoice table.rules ⟨version, platform⟩ ⟨other, platform⟩ (table.resolve ⟨version, platform⟩)
      (table.resolve ⟨other, platform⟩)
  builtin : ∀ os, (Catalog.builtinTable os).ByTemplates
  looked_up : ∀ resolver : Resolver, resolver.overrideFinder = none →
    SameChoice (Catalog.builtinTable platform.os).rules ⟨version, platform⟩ ⟨other, platform⟩
      (resolver.lookUp ⟨version, platform⟩) (resolver.lookUp ⟨other, platform⟩)

theorem Version.chosen_alike {version other : Version} (same : version.numeric = other.numeric)
    (platform : Platform) : ChosenAlike platform version other := by
  have alike : Distribution.Alike ⟨version, platform⟩ ⟨other, platform⟩ := ⟨rfl, same⟩
  have builtin (os : Os) : (Catalog.builtinTable os).ByTemplates :=
    (Catalog.builtinTable_serves os).byTemplates
  constructor
  case by_templates => exact fun table byTemplates => RuleTable.sameChoice_resolve alike byTemplates
  case builtin => exact builtin
  case looked_up =>
    intro resolver plain
    rw [Resolver.lookUp, Resolver.lookUp, plain]
    exact RuleTable.sameChoice_resolve alike (builtin platform.os)

/-- A release candidate, and its triple with a zero in front and the patch left out. -/
theorem Version.chosen_alike_whatever_the_spelling :
    let version : Version := ⟨"4.0.0-rc1", ⟨4, 0, 0⟩⟩
    let other : Version := ⟨"04.0", ⟨4, 0, 0⟩⟩
    Version.parse "4.0.0-rc1" = .ok version ∧ Version.parse " 04.0" = .ok other ∧
      version.numeric = other.numeric ∧
        ChosenAlike ⟨.linux, .x86, .b64, some .amazon2⟩ version other := by
  intro version other
  have same : version.numeric = other.numeric := by decide
  exact ⟨rfl, rfl, same, Version.chosen_alike same _⟩

end ThrowawayServer
