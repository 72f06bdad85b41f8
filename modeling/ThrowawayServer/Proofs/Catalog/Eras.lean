import Mathlib.Data.List.Nodup
import ThrowawayServer.Proofs.Catalog.Machine
import ThrowawayServer.Proofs.Version.Order

/-!
# Naming eras

On a given platform a predicate is nothing but some ranges of releases, so that the rules that can
decide there stand side by side with their ranges. For Windows and macOS these are the eras in which
packages had one name, and a later release never goes back to an earlier era.
-/

set_option autoImplicit false

namespace ThrowawayServer

/-!
## Predicates on one platform
-/

namespace NumericVersion

theorem rank_zero_le (v : NumericVersion) : rank ⟨0, 0, 0⟩ ≤ v.rank :=
  Nat.zero_le _

theorem rank_le_latest (v : NumericVersion) : v.rank ≤ rank .latest := by
  have major := v.major.toNat_lt
  have minor := v.minor.toNat_lt
  have patch := v.patch.toNat_lt
  have greatest : (0xFFFFFFFF : UInt32).toNat = 0xFFFFFFFF := rfl
  simp only [rank, latest, greatest]
  omega

end NumericVersion

namespace VersionRange

/-- The range of all releases. -/
def every : VersionRange := ⟨⟨0, 0, 0⟩, .latest⟩

/-- The releases that lie in both ranges. -/
def overlap (a b : VersionRange) : VersionRange where
  min := if a.min.olderOrEqual b.min then b.min else a.min
  max := if a.max.olderOrEqual b.max then a.max else b.max

variable {a b : VersionRange} {v : NumericVersion}

theorem contains_every (v : NumericVersion) : every.contains v = true :=
  contains_iff.mpr ⟨v.rank_zero_le, v.rank_le_latest⟩

theorem contains_overlap_iff :
    (a.overlap b).contains v = true ↔ a.contains v = true ∧ b.contains v = true := by
  simp only [contains_iff, overlap, apply_ite NumericVersion.rank, NumericVersion.olderOrEqual_iff]
  split_ifs <;> omega

end VersionRange

namespace Match

mutual

/-- The ranges of the releases for which a predicate holds on a platform. -/
def releasesOn (platform : Platform) : Match → List VersionRange
  | .always => [.every]
  | .os wanted => if platform.os = wanted then [.every] else []
  | .arch wanted => if platform.arch = wanted then [.every] else []
  | .bits wanted => if platform.bits = wanted then [.every] else []
  | .osVersionIn osVersions =>
    if platform.osVersion.any osVersions.contains then [.every] else []
  | .version range => [range]
  | .all parts => releasesOfAll platform parts
  | .any parts => releasesOfAny platform parts

def releasesOfAll (platform : Platform) : List Match → List VersionRange
  | [] => [.every]
  | m :: rest =>
    (releasesOn platform m).flatMap fun range => (releasesOfAll platform rest).map range.overlap

def releasesOfAny (platform : Platform) : List Match → List VersionRange
  | [] => []
  | m :: rest => releasesOn platform m ++ releasesOfAny platform rest

end

/-- One of the ranges has the release. -/
def Covers (ranges : List VersionRange) (v : NumericVersion) : Prop :=
  ∃ range ∈ ranges, range.contains v = true

variable {d : Distribution}

theorem covers_if_every (condition : Prop) [Decidable condition] (v : NumericVersion) :
    Covers (if condition then [.every] else []) v ↔ condition := by
  split_ifs with holds <;> simp [Covers, holds, VersionRange.contains_every]

mutual

theorem holds_iff_covers : ∀ m : Match,
    m.holds d = true ↔ Covers (m.releasesOn d.platform) d.version.numeric
  | .always => by simp [holds, releasesOn, Covers, VersionRange.contains_every]
  | .os _ => by rw [holds, releasesOn, covers_if_every, decide_eq_true_eq]
  | .arch _ => by rw [holds, releasesOn, covers_if_every, decide_eq_true_eq]
  | .bits _ => by rw [holds, releasesOn, covers_if_every, decide_eq_true_eq]
  | .osVersionIn _ => by
      rw [holds, releasesOn, covers_if_every]
      cases d.platform.osVersion <;> simp
  | .version _ => by simp [holds, releasesOn, Covers]
  | .all parts => by
      rw [holds, releasesOn]
      exact allHold_iff_covers parts
  | .any parts => by
      rw [holds, releasesOn]
      exact anyHolds_iff_covers parts

theorem allHold_iff_covers : ∀ parts : List Match,
    allHold d parts = true ↔ Covers (releasesOfAll d.platform parts) d.version.numeric
  | [] => by simp [allHold, releasesOfAll, Covers, VersionRange.contains_every]
  | m :: rest => by
      rw [allHold, Bool.and_eq_true, holds_iff_covers m, allHold_iff_covers rest]
      simp only [Covers, releasesOfAll, List.mem_flatMap, List.mem_map]
      constructor
      · rintro ⟨⟨range, member, inside⟩, other, member', inside'⟩
        exact ⟨range.overlap other, ⟨range, member, other, member', rfl⟩,
          VersionRange.contains_overlap_iff.mpr ⟨inside, inside'⟩⟩
      · rintro ⟨_, ⟨range, member, other, member', rfl⟩, inside⟩
        obtain ⟨inside, inside'⟩ := VersionRange.contains_overlap_iff.mp inside
        exact ⟨⟨range, member, inside⟩, other, member', inside'⟩

theorem anyHolds_iff_covers : ∀ parts : List Match,
    anyHolds d parts = true ↔ Covers (releasesOfAny d.platform parts) d.version.numeric
  | [] => by simp [anyHolds, releasesOfAny, Covers]
  | m :: rest => by
      rw [anyHolds, Bool.or_eq_true, holds_iff_covers m, anyHolds_iff_covers rest]
      simp only [Covers, releasesOfAny, List.mem_append, or_and_right, exists_or]

end

end Match

namespace Rule

/-- The rules of a list that can be the first match on a platform: the ones with releases, up to the
first one that takes them all. -/
def deciding (platform : Platform) : List Rule → List Rule
  | [] => []
  | rule :: rest =>
    let ranges := rule.matcher.releasesOn platform
    if ranges = [] then deciding platform rest
    else if .every ∈ ranges then [rule]
    else rule :: deciding platform rest

theorem find?_deciding (d : Distribution) (rules : List Rule) :
    (deciding d.platform rules).find? (fun rule => rule.matcher.holds d) =
      rules.find? fun rule => rule.matcher.holds d := by
  induction rules with
  | nil => rfl
  | cons rule rest ih =>
      have holds_iff := rule.matcher.holds_iff_covers (d := d)
      rw [deciding]
      split_ifs with none all
      · have misses : rule.matcher.holds d = false := by
          rw [Bool.eq_false_iff, ne_eq, holds_iff, none]
          simp [Match.Covers]
        rw [ih, List.find?_cons, misses]
      · have matched : rule.matcher.holds d = true :=
          holds_iff.mpr ⟨.every, all, VersionRange.contains_every _⟩
        rw [List.find?_cons, List.find?_cons, matched]
      · rw [List.find?_cons, List.find?_cons, ih]

/-- The deciding rules that find archives, the last one first. -/
def finders (platform : Platform) (rules : List Rule) : List Rule :=
  ((deciding platform rules).filter fun rule => rule.template?.isSome).reverse

theorem mem_finders_iff {platform : Platform} {rules : List Rule} {rule : Rule} :
    rule ∈ finders platform rules ↔
      rule ∈ deciding platform rules ∧ ∃ t, rule.template? = some t := by
  rw [finders, List.mem_reverse, List.mem_filter, Option.isSome_iff_exists]

/-- All releases of a rule on a platform are older than those of another. -/
def Before (platform : Platform) (rule later : Rule) : Prop :=
  ∀ range ∈ rule.matcher.releasesOn platform, ∀ range' ∈ later.matcher.releasesOn platform,
    range.max.olderThan range'.min = true

instance (platform : Platform) : DecidableRel (Before platform) := fun _ _ =>
  inferInstanceAs (Decidable (∀ range ∈ _, ∀ range' ∈ _, _))

theorem Before.rank_lt {platform : Platform} {rule later : Rule} (before : Before platform rule later)
    {v w : NumericVersion} (covers : Match.Covers (rule.matcher.releasesOn platform) v)
    (covers' : Match.Covers (later.matcher.releasesOn platform) w) : v.rank < w.rank := by
  obtain ⟨range, member, inside⟩ := covers
  obtain ⟨range', member', inside'⟩ := covers'
  have apart := NumericVersion.olderThan_iff.mp (before range member range' member')
  have upper := (VersionRange.contains_iff.mp inside).2
  have lower := (VersionRange.contains_iff.mp inside').1
  omega

end Rule

/-!
## Eras
-/

namespace Catalog

/-- The label of a rule and the packages that it names. -/
structure Era where
  label : String
  directory : String
  product : String
  deriving DecidableEq, Repr

/-- The eras of a platform, the earliest one first. -/
def eras (platform : Platform) : List Era :=
  match platform.os, platform.arch, platform.bits with
  | .windows, _, .b32 => [⟨"win32-i386", "win32", "win32-i386"⟩]
  | .windows, .x86, .b64 =>
    if platform.osVersion = some .windowsLegacy then
      [⟨"win32-x86_64-legacy", "win32", "win32-x86_64"⟩]
    else
      [⟨"win32-x86_64-2008plus", "win32", "win32-x86_64-2008plus"⟩,
        ⟨"win32-x86_64-2008plus-ssl", "win32", "win32-x86_64-2008plus-ssl"⟩,
        ⟨"win32-x86_64-2012plus", "win32", "win32-x86_64-2012plus"⟩,
        ⟨"windows-x86_64", "windows", "windows-x86_64"⟩]
  | .macOs, .x86, .b64 =>
    [⟨"osx-x86_64", "osx", "osx-x86_64"⟩, ⟨"osx-ssl-x86_64", "osx", "osx-ssl-x86_64"⟩,
      ⟨"macos-x86_64", "osx", "macos-x86_64"⟩]
  | .macOs, .arm, .b64 => [⟨"macos-arm64", "osx", "macos-arm64"⟩]
  | _, _, _ => []

/-- The template of an era's packages. -/
def Era.template (era : Era) (os : Os) : UrlTemplate := package os era.directory era.product

/-- The first match for a distribution is the rule of an era, and the archive is the era's package. -/
structure Era.Gives (era : Era) (d : Distribution) (artifact : Artifact) : Prop where
  labelled : ∃ rule, (builtinTable d.platform.os).firstMatch? d = some rule ∧
    rule.label = era.label
  packaged : artifact = (era.template d.platform.os).artifact d.version

/-- The rules for a platform that can decide there. -/
def decidingRules (platform : Platform) : List Rule :=
  Rule.deciding platform (builtinTable platform.os).rules

/-- The rules that find archives on a platform, the last one first. -/
def findingRules (platform : Platform) : List Rule :=
  Rule.finders platform (builtinTable platform.os).rules

/-- The rules for a platform read from their end are its eras, one after the other. -/
structure FollowEras (platform : Platform) : Prop where
  named : (findingRules platform).map (fun rule => (rule.label, rule.template?)) =
    (eras platform).map fun era => (era.label, some (era.template platform.os))
  distinct : ((eras platform).map Era.label).Nodup
  ascending : (findingRules platform).Pairwise (Rule.Before platform)
  newest : (∀ rule ∈ findingRules platform, ∀ range ∈ rule.matcher.releasesOn platform,
      range.contains .latest = false) ∨
    ∃ rule ∈ (decidingRules platform).head?, rule.template?.isSome ∧
      (rule.matcher.releasesOn platform).map VersionRange.max = [.latest]

instance (platform : Platform) : Decidable (FollowEras platform) :=
  decidable_of_iff
    (((findingRules platform).map (fun rule => (rule.label, rule.template?)) =
        (eras platform).map fun era => (era.label, some (era.template platform.os))) ∧
      ((eras platform).map Era.label).Nodup ∧
      (findingRules platform).Pairwise (Rule.Before platform) ∧
      ((∀ rule ∈ findingRules platform, ∀ range ∈ rule.matcher.releasesOn platform,
          range.contains .latest = false) ∨
        ∃ rule ∈ (decidingRules platform).head?, rule.template?.isSome ∧
          (rule.matcher.releasesOn platform).map VersionRange.max = [.latest]))
    ⟨fun ⟨named, distinct, ascending, newest⟩ => ⟨named, distinct, ascending, newest⟩,
      fun follow => ⟨follow.named, follow.distinct, follow.ascending, follow.newest⟩⟩

theorem followEras_of_listed (arch : CpuArch) (bits : BitSize) :
    ∀ os ∈ [Os.windows, .macOs], ∀ osVersion ∈ none :: OsVersion.all.map some,
      FollowEras ⟨os, arch, bits, osVersion⟩ := by
  cases arch <;> cases bits <;> decide +kernel

theorem followEras {platform : Platform} (named : platform.os = .windows ∨ platform.os = .macOs) :
    FollowEras platform := by
  obtain ⟨os, arch, bits, osVersion⟩ := platform
  have listed : osVersion ∈ none :: OsVersion.all.map some := by
    rcases osVersion with _ | tag
    · exact List.mem_cons_self
    · cases tag <;> decide
  exact followEras_of_listed arch bits os (by simpa using named) osVersion listed

variable {platform : Platform} {version v w : Version} {artifact : Artifact} {rule rule' : Rule}

theorem firstMatch?_builtinTable (version : Version) (platform : Platform) :
    (builtinTable platform.os).firstMatch? ⟨version, platform⟩ =
      (decidingRules platform).find? fun rule => rule.matcher.holds ⟨version, platform⟩ :=
  (Rule.find?_deciding ⟨version, platform⟩ _).symm

/-- A version that resolves on a platform is decided by a rule that finds its archive. -/
theorem exists_findingRule_of_resolve
    (resolved : (builtinTable platform.os).resolve ⟨version, platform⟩ = .ok artifact) :
    ∃ rule t, (builtinTable platform.os).firstMatch? ⟨version, platform⟩ = some rule ∧
      rule ∈ findingRules platform ∧ rule.template? = some t ∧ artifact = t.artifact version ∧
      Match.Covers (rule.matcher.releasesOn platform) version.numeric := by
  obtain ⟨rule, first, serves, decided⟩ := resolve_builtinTable platform.os ⟨version, platform⟩
  rw [decided] at resolved
  cases serves with
  | rejects worded =>
      rw [Rule.decide_reject] at resolved
      cases resolved
  | names package =>
      rw [Rule.decide_template] at resolved
      have found := first
      rw [firstMatch?_builtinTable] at found
      have listed := Rule.mem_finders_iff.mpr ⟨List.mem_of_find?_eq_some found, _, rfl⟩
      have holds := List.find?_some found
      exact ⟨_, _, first, listed, rfl, (Except.ok.inj resolved).symm,
        (Match.holds_iff_covers _).mp holds⟩

/-- A rule that finds archives does so for every version that it comes first for. -/
theorem resolve_of_template? {t : UrlTemplate} (found : rule.template? = some t)
    (first : (builtinTable platform.os).firstMatch? ⟨version, platform⟩ = some rule) :
    (builtinTable platform.os).resolve ⟨version, platform⟩ = .ok (t.artifact version) := by
  obtain ⟨label, matcher, action⟩ := rule
  rw [RuleTable.resolve, first]
  cases action with
  | reject => cases found
  | find finder =>
      cases finder with
      | custom find => cases found
      | template t' =>
          cases found
          rfl

namespace FollowEras

/-- The rule and the era at the same place belong together. -/
theorem era_at (follow : FollowEras platform) {i : Nat}
    (standing : (findingRules platform)[i]? = some rule) :
    ∃ era, (eras platform)[i]? = some era ∧ rule.label = era.label ∧
      rule.template? = some (era.template platform.os) := by
  have pairs := congrArg (fun pairs => pairs[i]?) follow.named
  simp only [List.getElem?_map, standing, Option.map_some] at pairs
  obtain ⟨era, listed, same⟩ := Option.map_eq_some_iff.mp pairs.symm
  obtain ⟨label, template⟩ := Prod.mk.inj same
  exact ⟨era, listed, label.symm, template.symm⟩

theorem rule_unique (follow : FollowEras platform) (member : rule ∈ findingRules platform)
    (member' : rule' ∈ findingRules platform) (same : rule.label = rule'.label) : rule = rule' := by
  have labels := congrArg (List.map Prod.fst) follow.named
  rw [List.map_map, List.map_map] at labels
  have distinct : ((findingRules platform).map Rule.label).Nodup :=
    Eq.subst labels.symm follow.distinct
  exact List.inj_on_of_nodup_map distinct member member' same

/-- A version that resolves does so by the rule and the era at one place. -/
theorem exists_place (follow : FollowEras platform)
    (resolved : (builtinTable platform.os).resolve ⟨version, platform⟩ = .ok artifact) :
    ∃ (i : Nat) (rule : Rule) (era : Era), (findingRules platform)[i]? = some rule ∧
      (eras platform)[i]? = some era ∧ era.Gives ⟨version, platform⟩ artifact ∧
      Match.Covers (rule.matcher.releasesOn platform) version.numeric := by
  obtain ⟨rule, t, first, member, template, packaged, covers⟩ :=
    exists_findingRule_of_resolve resolved
  obtain ⟨i, standing⟩ := List.mem_iff_getElem?.mp member
  obtain ⟨era, listed, label, template'⟩ := follow.era_at standing
  cases template.symm.trans template'
  exact ⟨i, rule, era, standing, listed, ⟨⟨rule, first, label⟩, packaged⟩, covers⟩

theorem place_le (follow : FollowEras platform) {i j : Nat}
    (standing : (findingRules platform)[i]? = some rule)
    (standing' : (findingRules platform)[j]? = some rule')
    (covers : Match.Covers (rule.matcher.releasesOn platform) v.numeric)
    (covers' : Match.Covers (rule'.matcher.releasesOn platform) w.numeric)
    (order : v.numeric.olderOrEqual w.numeric = true) : i ≤ j := by
  by_contra earlier
  obtain ⟨within, rfl⟩ := List.getElem?_eq_some_iff.mp standing
  obtain ⟨within', rfl⟩ := List.getElem?_eq_some_iff.mp standing'
  have before := List.pairwise_iff_getElem.mp follow.ascending j i within' within (by omega)
  have younger := before.rank_lt covers' covers
  rw [NumericVersion.olderOrEqual_iff] at order
  omega

/-- Where the rolling build resolves, the first deciding rule belongs to the last era and has all
releases from one on. -/
theorem exists_openEnded (follow : FollowEras platform)
    (resolved : (builtinTable platform.os).resolve ⟨.latest, platform⟩ = .ok artifact) :
    ∃ (rule : Rule) (era : Era) (first : NumericVersion), rule ∈ findingRules platform ∧
      rule ∈ (decidingRules platform).head? ∧ (eras platform).getLast? = some era ∧
      rule.label = era.label ∧ rule.template? = some (era.template platform.os) ∧
      rule.matcher.releasesOn platform = [⟨first, .latest⟩] := by
  rcases follow.newest with closed | ⟨rule, head, finds, ends⟩
  · obtain ⟨rule, -, -, member, -, -, range, listed, rolling⟩ :=
      exists_findingRule_of_resolve resolved
    exact absurd rolling (by simpa [Version.latest] using closed rule member range listed)
  · obtain ⟨⟨first, last⟩, ranges, rfl⟩ := List.map_eq_singleton_iff.mp ends
    obtain ⟨rest, rules⟩ := List.head?_eq_some_iff.mp head
    have standing : (findingRules platform).getLast? = some rule := by
      rw [findingRules, Rule.finders, ← decidingRules, rules, List.getLast?_reverse,
        List.filter_cons, if_pos finds, List.head?_cons]
    have pairs := congrArg List.getLast? follow.named
    rw [List.getLast?_map, standing, List.getLast?_map] at pairs
    obtain ⟨era, listed, same⟩ := Option.map_eq_some_iff.mp pairs.symm
    obtain ⟨label, template⟩ := Prod.mk.inj same
    exact ⟨rule, era, first, List.mem_of_getLast? standing, head, listed, label.symm,
      template.symm, ranges⟩

theorem exists_newest (follow : FollowEras platform)
    (resolved : (builtinTable platform.os).resolve ⟨.latest, platform⟩ = .ok artifact) :
    ∃ (era : Era) (first : NumericVersion), (eras platform).getLast? = some era ∧
      ∀ version : Version, first.olderOrEqual version.numeric = true ↔
        ∃ artifact, (builtinTable platform.os).resolve ⟨version, platform⟩ = .ok artifact ∧
          era.Gives ⟨version, platform⟩ artifact := by
  obtain ⟨rule, era, first, member, head, last, label, template, ranges⟩ :=
    follow.exists_openEnded resolved
  obtain ⟨rest, rules⟩ := List.head?_eq_some_iff.mp head
  have covers_iff (version : Version) :
      Match.Covers (rule.matcher.releasesOn platform) version.numeric ↔
        first.olderOrEqual version.numeric = true := by
    simp [ranges, Match.Covers, VersionRange.contains_iff, NumericVersion.olderOrEqual_iff,
      NumericVersion.rank_le_latest]
  refine ⟨era, first, last, fun version => ?_⟩
  rw [← covers_iff]
  constructor
  · intro covers
    have holds := (rule.matcher.holds_iff_covers (d := ⟨version, platform⟩)).mpr covers
    have first : (builtinTable platform.os).firstMatch? ⟨version, platform⟩ = some rule := by
      rw [firstMatch?_builtinTable, rules, List.find?_cons, holds]
    exact ⟨_, resolve_of_template? template first, ⟨rule, first, label⟩, rfl⟩
  · rintro ⟨artifact, resolved, ⟨rule', first, label'⟩, -⟩
    obtain ⟨found, -, first', member', -, -, covers⟩ := exists_findingRule_of_resolve resolved
    cases first.symm.trans first'
    have same := follow.rule_unique member' member (label'.trans label.symm)
    rwa [same] at covers

end FollowEras

/-- Which names the packages for a platform have as releases go on. -/
structure NamedByEras (platform : Platform) : Prop where
  distinct : ((eras platform).map Era.label).Nodup
  forward : ∀ (v w : Version) (a b : Artifact), v.numeric.olderOrEqual w.numeric = true →
    (builtinTable platform.os).resolve ⟨v, platform⟩ = .ok a →
    (builtinTable platform.os).resolve ⟨w, platform⟩ = .ok b →
      ∃ (i j : Nat) (era later : Era), (eras platform)[i]? = some era ∧
        (eras platform)[j]? = some later ∧ i ≤ j ∧ era.Gives ⟨v, platform⟩ a ∧
        later.Gives ⟨w, platform⟩ b
  newest : ∀ a, (builtinTable platform.os).resolve ⟨.latest, platform⟩ = .ok a →
    ∃ (era : Era) (first : NumericVersion), (eras platform).getLast? = some era ∧
      ∀ version : Version, first.olderOrEqual version.numeric = true ↔
        ∃ artifact, (builtinTable platform.os).resolve ⟨version, platform⟩ = .ok artifact ∧
          era.Gives ⟨version, platform⟩ artifact

theorem resolve_namedByEras (platform : Platform)
    (named : platform.os = .windows ∨ platform.os = .macOs) : NamedByEras platform := by
  have follow := followEras named
  constructor
  case distinct => exact follow.distinct
  case forward =>
    intro v w a b order resolved resolved'
    obtain ⟨i, rule, era, standing, listed, gives, covers⟩ := follow.exists_place resolved
    obtain ⟨j, rule', later, standing', listed', gives', covers'⟩ := follow.exists_place resolved'
    exact ⟨i, j, era, later, listed, listed',
      follow.place_le standing standing' covers covers' order, gives, gives'⟩
  case newest => exact fun _ resolved => follow.exists_newest resolved

/-- A platform with four eras. -/
theorem resolve_namedByEras_on_windows :
    let platform : Platform := ⟨.windows, .x86, .b64, some .windows2008R2Plus⟩
    (platform.os = .windows ∨ platform.os = .macOs) ∧ NamedByEras platform := by
  intro platform
  have named : platform.os = .windows ∨ platform.os = .macOs := .inl rfl
  exact ⟨named, resolve_namedByEras platform named⟩

end Catalog

end ThrowawayServer
