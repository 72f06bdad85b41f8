import ThrowawayServer.Proofs.Catalog.FirstMatch
import ThrowawayServer.Proofs.Catalog.Matching
import ThrowawayServer.Proofs.Catalog.Resolution

/-!
# Linux packages without an order

No two builds for particular Linux distributions are published for the same one: they differ in the
processor, in the release tags they serve or in the versions. So the order in which their rules are
tried does not matter, and what Linux is given can be said without it: the one build for the
distribution, or else what is left for any Linux.
-/

set_option autoImplicit false

namespace ThrowawayServer

namespace Catalog

/-- A build is published for a distribution. -/
structure LinuxBuild.Serves (build : LinuxBuild) (d : Distribution) : Prop where
  arch : d.platform.arch = build.arch
  bits : d.platform.bits = .b64
  tagged : ∃ tag ∈ build.osVersions, d.platform.osVersion = some tag
  published : ∃ range ∈ build.releases, range.contains d.version.numeric = true

/-- The versions of the build for 32-bit processors that any Linux can take. -/
def smallRange : VersionRange := ⟨⟨2, 6, 0⟩, ⟨3, 2, 22⟩⟩

/-- The versions of the build for 64-bit processors that any Linux can take. -/
def genericRange : VersionRange := ⟨⟨2, 6, 0⟩, ⟨4, 0, 28⟩⟩

/-- The build for 32-bit processors can be taken if no other is published. -/
def IsSmall (d : Distribution) : Prop :=
  d.platform.arch = .x86 ∧ d.platform.bits = .b32 ∧ smallRange.contains d.version.numeric = true

/-- The build for 64-bit processors can be taken if no other is published. -/
def IsGeneric (d : Distribution) : Prop :=
  d.platform.arch = .x86 ∧ d.platform.bits = .b64 ∧ genericRange.contains d.version.numeric = true

/-- What a distribution is given by the rules for Linux. -/
inductive LinuxAnswer (d : Distribution) : Except ResolveError Artifact → Prop where
  | build {build : LinuxBuild} (listed : build ∈ linuxBuilds) (serves : build.Serves d)
      (alone : ∀ other ∈ linuxBuilds, other.Serves d → other = build) :
      LinuxAnswer d (.ok ((package .linux "linux" build.label).artifact d.version))
  | small (unserved : ∀ build ∈ linuxBuilds, ¬ build.Serves d) (small : IsSmall d) :
      LinuxAnswer d (.ok ((package .linux "linux" "linux-i686").artifact d.version))
  | generic (unserved : ∀ build ∈ linuxBuilds, ¬ build.Serves d) (generic : IsGeneric d) :
      LinuxAnswer d (.ok ((package .linux "linux" "linux-x86_64").artifact d.version))
  | unsupported {reason : String} (unserved : ∀ build ∈ linuxBuilds, ¬ build.Serves d)
      (neither : ¬ IsSmall d ∧ ¬ IsGeneric d) :
      LinuxAnswer d (.error (.unsupported d.toText reason))

variable {d : Distribution} {build other : LinuxBuild}

/-!
## Builds apart
-/

theorem LinuxBuild.rule_holds_iff : build.rule.matcher.holds d = true ↔ build.Serves d := by
  simp only [LinuxBuild.rule, LinuxBuild.matcher, Match.holds_and, Match.versions, Match.holds,
    Match.anyHolds_versions, Bool.and_eq_true, and_assoc, decide_eq_true_eq, List.any_eq_true]
  constructor
  · rintro ⟨arch, bits, tagged, published⟩
    refine ⟨arch, bits, ?_, published⟩
    cases tag : d.platform.osVersion with
    | none =>
        rw [tag] at tagged
        cases tagged
    | some current =>
        rw [tag] at tagged
        exact ⟨current, List.contains_iff_mem.mp tagged, rfl⟩
  · rintro ⟨arch, bits, ⟨tag, listed, tagged⟩, published⟩
    refine ⟨arch, bits, ?_, published⟩
    rw [tagged]
    exact List.contains_iff_mem.mpr listed

/-- No distribution is served by both builds. -/
def LinuxBuild.Apart (build other : LinuxBuild) : Prop :=
  build.arch ≠ other.arch ∨ (∀ tag ∈ build.osVersions, tag ∉ other.osVersions) ∨
    ∀ range ∈ build.releases, ∀ later ∈ other.releases, range.Apart later

instance (build other : LinuxBuild) : Decidable (build.Apart other) :=
  inferInstanceAs (Decidable (_ ∨ _ ∨ _))

theorem LinuxBuild.Apart.not_both (apart : build.Apart other) (serves : build.Serves d) :
    ¬ other.Serves d := by
  intro servesOther
  obtain ⟨tag, listed, tagged⟩ := serves.tagged
  obtain ⟨tagOther, listedOther, taggedOther⟩ := servesOther.tagged
  obtain ⟨range, published, inside⟩ := serves.published
  obtain ⟨rangeOther, publishedOther, insideOther⟩ := servesOther.published
  rcases apart with arch | tags | ranges
  · exact arch (serves.arch.symm.trans servesOther.arch)
  · cases Option.some.inj (tagged.symm.trans taggedOther)
    exact tags tag listed listedOther
  · exact (ranges range published rangeOther publishedOther).not_both inside insideOther

theorem linuxBuilds_apart : linuxBuilds.Pairwise LinuxBuild.Apart := by
  decide +kernel

theorem pairwise_linuxBuilds (d : Distribution) :
    linuxBuilds.Pairwise fun build other =>
      ¬ (build.rule.matcher.holds d = true ∧ other.rule.matcher.holds d = true) := by
  refine linuxBuilds_apart.imp fun apart both => ?_
  exact apart.not_both (LinuxBuild.rule_holds_iff.mp both.1) (LinuxBuild.rule_holds_iff.mp both.2)

theorem pairwise_linuxBuildTable (d : Distribution) :
    linuxBuildTable.rules.Pairwise fun rule other =>
      ¬ (rule.matcher.holds d = true ∧ other.matcher.holds d = true) := by
  rw [linuxBuildTable, List.pairwise_map]
  exact pairwise_linuxBuilds d

/-- Where no two elements pass a test, at most one is left by it. -/
theorem filter_eq_nil_or_singleton {α : Type} {p : α → Bool} {l : List α}
    (apart : l.Pairwise fun a b => ¬ (p a = true ∧ p b = true)) :
    l.filter p = [] ∨ ∃ a, l.filter p = [a] := by
  have passed : ∀ a ∈ l.filter p, p a = true := fun a member => (List.mem_filter.mp member).2
  have stillApart := apart.filter p
  cases rest : l.filter p with
  | nil => exact .inl rfl
  | cons a rest' =>
      rw [rest] at passed stillApart
      cases rest' with
      | nil => exact .inr ⟨a, rfl⟩
      | cons b more =>
          have both := (List.pairwise_cons.mp stillApart).1 b List.mem_cons_self
          exact absurd ⟨passed a List.mem_cons_self, passed b (.tail _ List.mem_cons_self)⟩ both

theorem find?_eq_of_perm {α : Type} {p : α → Bool} {l other : List α} (perm : other.Perm l)
    (apart : l.Pairwise fun a b => ¬ (p a = true ∧ p b = true)) : other.find? p = l.find? p := by
  rw [← List.head?_filter, ← List.head?_filter]
  have left := perm.filter p
  rcases filter_eq_nil_or_singleton apart with none | ⟨a, one⟩
  · rw [none] at left ⊢
    rw [List.perm_nil.mp left]
  · rw [one] at left ⊢
    rw [List.perm_singleton.mp left]

theorem LinuxBuild.Serves.alone (serves : build.Serves d) (listed : build ∈ linuxBuilds)
    (servesOther : other.Serves d) (listedOther : other ∈ linuxBuilds) : other = build := by
  let passes (build : LinuxBuild) : Bool := build.rule.matcher.holds d
  have left : build ∈ linuxBuilds.filter passes :=
    List.mem_filter.mpr ⟨listed, rule_holds_iff.mpr serves⟩
  have leftOther : other ∈ linuxBuilds.filter passes :=
    List.mem_filter.mpr ⟨listedOther, rule_holds_iff.mpr servesOther⟩
  rcases filter_eq_nil_or_singleton (p := passes) (pairwise_linuxBuilds d) with none | ⟨only, one⟩
  · rw [none] at left
    cases left
  · rw [one] at left leftOther
    rw [List.mem_singleton.mp left, List.mem_singleton.mp leftOther]

/-!
## What Linux is given
-/

theorem matches_linuxBuildTable_iff :
    linuxBuildTable.Matches d ↔ ∃ build ∈ linuxBuilds, build.Serves d := by
  constructor
  · rintro ⟨rule, member, holds⟩
    obtain ⟨build, listed, rfl⟩ := List.mem_map.mp member
    exact ⟨build, listed, LinuxBuild.rule_holds_iff.mp holds⟩
  · rintro ⟨build, listed, serves⟩
    exact ⟨build.rule, List.mem_map_of_mem listed, LinuxBuild.rule_holds_iff.mpr serves⟩

theorem resolve_linuxBuildTable (listed : build ∈ linuxBuilds) (serves : build.Serves d) :
    linuxBuildTable.resolve d =
      .ok ((package .linux "linux" build.label).artifact d.version) := by
  have hit := matches_linuxBuildTable_iff.mpr ⟨build, listed, serves⟩
  obtain ⟨rule, first⟩ := RuleTable.exists_firstMatch?_of_matches hit
  obtain ⟨found, listedFound, rfl⟩ := List.mem_map.mp (List.mem_of_find?_eq_some first)
  obtain ⟨-, -, -, -, holds⟩ := RuleTable.firstMatch?_eq_some_iff.mp first
  cases serves.alone listed (LinuxBuild.rule_holds_iff.mp holds) listedFound
  exact RuleTable.resolve_of_firstMatch? first

/-- The rules for any Linux by the parts of a platform that they ask for. -/
theorem firstMatch?_anyLinuxTable (d : Distribution) :
    anyLinuxTable.firstMatch? d = some
      (match d.platform.arch, d.platform.bits with
      | .x86, .b32 =>
        if smallRange.contains d.version.numeric then anyLinuxTable.rules[0]
        else anyLinuxTable.rules[1]
      | .arm, .b32 => anyLinuxTable.rules[1]
      | .arm, .b64 => anyLinuxTable.rules[2]
      | .x86, .b64 =>
        if genericRange.contains d.version.numeric then anyLinuxTable.rules[3]
        else anyLinuxTable.rules[4]) := by
  cases arch : d.platform.arch <;> cases bits : d.platform.bits <;>
    cases small : smallRange.contains d.version.numeric <;>
    cases generic : genericRange.contains d.version.numeric
  all_goals
    rw [smallRange] at small
    rw [genericRange] at generic
    simp [anyLinuxTable, RuleTable.rule, RuleTable.reject, RuleTable.otherwiseReject,
      RuleTable.empty, RuleTable.firstMatch?, Match.holds_and, Match.holds, Match.between, arch,
      bits, small, generic]

theorem linuxAnswer_of_unserved (unserved : ∀ build ∈ linuxBuilds, ¬ build.Serves d) :
    LinuxAnswer d (anyLinuxTable.resolve d) := by
  rw [RuleTable.resolve_of_firstMatch? (firstMatch?_anyLinuxTable d)]
  cases arch : d.platform.arch with
  | arm =>
      have neither : ¬ IsSmall d ∧ ¬ IsGeneric d := by simp [IsSmall, IsGeneric, arch]
      cases d.platform.bits with
      | b32 | b64 => exact .unsupported unserved neither
  | x86 =>
      cases bits : d.platform.bits with
      | b32 =>
          have notGeneric : ¬ IsGeneric d := by simp [IsGeneric, bits]
          dsimp only
          split
          · next published => exact .small unserved ⟨arch, bits, published⟩
          · next unpublished =>
              exact .unsupported unserved ⟨fun small => unpublished small.2.2, notGeneric⟩
      | b64 =>
          have notSmall : ¬ IsSmall d := by simp [IsSmall, bits]
          dsimp only
          split
          · next published => exact .generic unserved ⟨arch, bits, published⟩
          · next unpublished =>
              exact .unsupported unserved ⟨notSmall, fun generic => unpublished generic.2.2⟩

theorem linuxAnswer_resolve (d : Distribution) :
    LinuxAnswer d ((builtinTable .linux).resolve d) := by
  by_cases served : ∃ build ∈ linuxBuilds, build.Serves d
  · obtain ⟨build, listed, serves⟩ := served
    have hit := matches_linuxBuildTable_iff.mpr ⟨build, listed, serves⟩
    rw [builtinTable, linuxTable, RuleTable.resolve_extend_of_matches anyLinuxTable hit,
      resolve_linuxBuildTable listed serves]
    exact .build listed serves fun other listedOther servesOther =>
      serves.alone listed servesOther listedOther
  · have misses : ¬ linuxBuildTable.Matches d := matches_linuxBuildTable_iff.not.mpr served
    have later : anyLinuxTable.Matches d :=
      RuleTable.matches_of_always (List.getElem_mem (show 4 < anyLinuxTable.rules.length by decide))
        rfl
    rw [builtinTable, linuxTable, RuleTable.resolve_extend_of_matches_later misses later]
    exact linuxAnswer_of_unserved fun build listed serves => served ⟨build, listed, serves⟩

theorem resolve_extend_of_perm {rules : List Rule} (perm : rules.Perm linuxBuildTable.rules)
    (d : Distribution) :
    ((RuleTable.mk linuxBuildTable.name rules).extend anyLinuxTable).resolve d =
      (builtinTable .linux).resolve d := by
  refine RuleTable.resolve_congr rfl ?_
  rw [RuleTable.firstMatch?_extend, builtinTable, linuxTable, RuleTable.firstMatch?_extend]
  have same : RuleTable.firstMatch? ⟨linuxBuildTable.name, rules⟩ d =
      linuxBuildTable.firstMatch? d :=
    find?_eq_of_perm perm (pairwise_linuxBuildTable d)
  rw [same]

theorem LinuxAnswer.isOk {answer : Except ResolveError Artifact} (given : LinuxAnswer d answer)
    (generic : IsGeneric d) : ∃ artifact, answer = .ok artifact := by
  cases given with
  | build | small | generic => exact ⟨_, rfl⟩
  | unsupported _ neither => exact absurd generic neither.2

theorem linuxBuilds_not_older : ∀ build ∈ linuxBuilds, ∀ range ∈ build.releases,
    ¬ range.min.olderThan ⟨2, 6, 0⟩ = true := by
  decide +kernel

theorem LinuxAnswer.unsupported_of_older {answer : Except ResolveError Artifact}
    (given : LinuxAnswer d answer) (older : d.version.numeric.olderThan ⟨2, 6, 0⟩ = true) :
    ∃ reason, answer = .error (.unsupported d.toText reason) := by
  have outside : ∀ range : VersionRange, ¬ range.min.olderThan ⟨2, 6, 0⟩ = true →
      ¬ range.contains d.version.numeric = true := by
    intro range notOlder inside
    rw [NumericVersion.olderThan_iff] at older notOlder
    rw [VersionRange.contains_iff] at inside
    omega
  cases given with
  | build listed serves =>
      obtain ⟨range, published, inside⟩ := serves.published
      exact absurd inside (outside range (linuxBuilds_not_older _ listed range published))
  | small _ small => exact absurd small.2.2 (outside _ (by decide))
  | generic _ generic => exact absurd generic.2.2 (outside _ (by decide))
  | unsupported => exact ⟨_, rfl⟩

/-- The rules for Linux decide about a distribution as if they had no order. -/
structure LinuxRulesUnordered (d : Distribution) : Prop where
  number : linuxBuildTable.rules.length = 31
  at_most_one : (linuxBuildTable.rules.filter fun rule => rule.matcher.holds d).length ≤ 1
  answer : LinuxAnswer d ((builtinTable .linux).resolve d)
  permuted : ∀ rules, rules.Perm linuxBuildTable.rules →
    ((RuleTable.mk linuxBuildTable.name rules).extend anyLinuxTable).resolve d =
      (builtinTable .linux).resolve d
  any_tag : d.platform.arch = .x86 → d.platform.bits = .b64 →
    genericRange.contains d.version.numeric = true →
      ∃ artifact, (builtinTable .linux).resolve d = .ok artifact
  none_older : d.version.numeric.olderThan ⟨2, 6, 0⟩ = true →
    ∃ reason, (builtinTable .linux).resolve d = .error (.unsupported d.toText reason)

theorem linuxRulesUnordered (d : Distribution) : LinuxRulesUnordered d := by
  constructor
  case number => rfl
  case at_most_one =>
    have apart := pairwise_linuxBuildTable d
    rcases filter_eq_nil_or_singleton apart with none | ⟨rule, one⟩
    · simp [none]
    · simp [one]
  case answer => exact linuxAnswer_resolve d
  case permuted => exact fun _ perm => resolve_extend_of_perm perm d
  case any_tag =>
    intro arch bits published
    exact (linuxAnswer_resolve d).isOk ⟨arch, bits, published⟩
  case none_older => exact (linuxAnswer_resolve d).unsupported_of_older

end Catalog
end ThrowawayServer
