import ThrowawayServer.Proofs.Catalog.Chains
import ThrowawayServer.Proofs.Catalog.Resolution

/-!
# The machine that a package is built for

The words of package names tell the processor family and the word size that a package needs. The
rules of every operating system name packages for the machine that asks, with one exception: 32-bit
Windows is served before ARM is ruled out. Predicates never negate, so the rules that can come first
for a machine are found by evaluating them with every other part unknown.
-/

set_option autoImplicit false

namespace ThrowawayServer

/-- A processor with its word size. -/
def Platform.machine (platform : Platform) : CpuArch × BitSize := (platform.arch, platform.bits)

/-- The words of package names that stand for machines. -/
def Catalog.machineWords : List (String × CpuArch × BitSize) :=
  [("x86_64", .x86, .b64), ("aarch64", .arm, .b64), ("arm64", .arm, .b64), ("i686", .x86, .b32),
    ("i386", .x86, .b32)]

def Catalog.machineOfWord? (word : List Char) : Option (CpuArch × BitSize) :=
  machineWords.lookup (String.ofList word)

/-- The machines that the words between the hyphens of a template stand for. -/
def UrlTemplate.machines (t : UrlTemplate) : List (CpuArch × BitSize) :=
  (Text.splitAll '-' t.template.toList).filterMap Catalog.machineOfWord?

namespace Match

mutual

/-- A predicate where only the machine is known and every other test has the same answer. -/
def holdsOn (unknown : Bool) (machine : CpuArch × BitSize) : Match → Bool
  | .always => true
  | .arch wanted => machine.1 = wanted
  | .bits wanted => machine.2 = wanted
  | .all parts => allHoldOn unknown machine parts
  | .any parts => anyHoldsOn unknown machine parts
  | .os _ | .osVersionIn _ | .version _ => unknown

def allHoldOn (unknown : Bool) (machine : CpuArch × BitSize) : List Match → Bool
  | [] => true
  | m :: rest => holdsOn unknown machine m && allHoldOn unknown machine rest

def anyHoldsOn (unknown : Bool) (machine : CpuArch × BitSize) : List Match → Bool
  | [] => false
  | m :: rest => holdsOn unknown machine m || anyHoldsOn unknown machine rest

end

/-- No predicate negates, so that the unknown answers bound it from both sides. -/
def Bounded (lower value upper : Bool) : Prop := (lower → value) ∧ (value → upper)

variable {d : Distribution}

mutual

theorem holdsOn_bounds : ∀ m : Match,
    Bounded (m.holdsOn false d.platform.machine) (m.holds d) (m.holdsOn true d.platform.machine)
  | .always => by simp [Bounded, holdsOn, holds]
  | .arch _ => by
      rw [holdsOn, holds, holdsOn]
      exact ⟨id, id⟩
  | .bits _ => by
      rw [holdsOn, holds, holdsOn]
      exact ⟨id, id⟩
  | .os _ => by simp [Bounded, holdsOn]
  | .osVersionIn _ => by simp [Bounded, holdsOn]
  | .version _ => by simp [Bounded, holdsOn]
  | .all parts => by
      rw [holdsOn, holds, holdsOn]
      exact allHoldOn_bounds parts
  | .any parts => by
      rw [holdsOn, holds, holdsOn]
      exact anyHoldsOn_bounds parts

theorem allHoldOn_bounds : ∀ parts : List Match,
    Bounded (allHoldOn false d.platform.machine parts) (allHold d parts)
      (allHoldOn true d.platform.machine parts)
  | [] => by simp [Bounded, allHoldOn, allHold]
  | m :: rest => by
      obtain ⟨lower, upper⟩ := holdsOn_bounds m
      obtain ⟨lowerRest, upperRest⟩ := allHoldOn_bounds rest
      simp only [Bounded, allHoldOn, allHold, Bool.and_eq_true]
      exact ⟨And.imp lower lowerRest, And.imp upper upperRest⟩

theorem anyHoldsOn_bounds : ∀ parts : List Match,
    Bounded (anyHoldsOn false d.platform.machine parts) (anyHolds d parts)
      (anyHoldsOn true d.platform.machine parts)
  | [] => by simp [Bounded, anyHoldsOn, anyHolds]
  | m :: rest => by
      obtain ⟨lower, upper⟩ := holdsOn_bounds m
      obtain ⟨lowerRest, upperRest⟩ := anyHoldsOn_bounds rest
      simp only [Bounded, anyHoldsOn, anyHolds, Bool.or_eq_true]
      exact ⟨Or.imp lower lowerRest, Or.imp upper upperRest⟩

end

end Match

/-- The rules of a list that can be the first match for a machine. -/
def Rule.candidates (machine : CpuArch × BitSize) : List Rule → List Rule
  | [] => []
  | rule :: rest =>
    if rule.matcher.holdsOn true machine then
      rule :: if rule.matcher.holdsOn false machine then [] else candidates machine rest
    else candidates machine rest

theorem Rule.mem_candidates {d : Distribution} {rules : List Rule} {rule : Rule}
    (first : rules.find? (fun rule => rule.matcher.holds d) = some rule) :
    rule ∈ candidates d.platform.machine rules := by
  induction rules with
  | nil => cases first
  | cons head rest ih =>
      -- A rule that matches was possible for the machine, and one that does not was not certain.
      obtain ⟨lower, upper⟩ := head.matcher.holdsOn_bounds (d := d)
      rw [List.find?_cons] at first
      cases matched : head.matcher.holds d with
      | true =>
          rw [matched] at first
          cases first
          rw [candidates, if_pos (upper matched)]
          exact List.mem_cons_self
      | false =>
          rw [matched] at first
          have missed : ¬ head.matcher.holdsOn false d.platform.machine := by
            intro certain
            rw [lower certain] at matched
            cases matched
          rw [candidates, if_neg missed]
          split
          · exact List.mem_cons_of_mem _ (ih first)
          · exact ih first

/-- The template that a rule finds archives by. -/
def Rule.template? (rule : Rule) : Option UrlTemplate :=
  match rule.action with
  | .find (.template t) => some t
  | _ => none

/-- The template of the first match. -/
def RuleTable.chosen? (table : RuleTable) (d : Distribution) : Option UrlTemplate :=
  (table.firstMatch? d).bind Rule.template?

namespace Catalog

/-!
## Words of packages
-/

theorem machineOfWord?_eq_none {word : List Char} {c : Char} (inside : c ∈ word)
    (foreign : ∀ entry ∈ machineWords, c ∉ entry.1.toList) : machineOfWord? word = none := by
  rw [machineOfWord?, List.lookup_eq_none_iff]
  intro entry listed
  rw [bne_iff_ne]
  intro same
  have letters := foreign entry listed
  rw [← same, String.toList_ofList] at letters
  exact letters inside

/-- Neither what precedes a label nor the placeholder after it is a word for a machine. -/
theorem machines_package {os : Os} {directory label : String} (plain : '-' ∉ directory.toList) :
    (package os directory label).machines = (labelWords label).filterMap machineOfWord? := by
  have pieces : (package os directory label).template.toList =
      (directory ++ "/mongodb").toList ++ '-' :: (label.toList ++ '-' :: '\x7b' ::
        ("version\x7d" ++ (package os directory label).archive.extension).toList) := by
    simp [toList_packageTemplate]
  have whole : '-' ∉ (directory ++ "/mongodb").toList := by
    rw [String.toList_append, List.mem_append]
    rintro (inside | inside)
    · exact plain inside
    · revert inside
      decide
  have last : '-' ∉ '\x7b' ::
      ("version\x7d" ++ (package os directory label).archive.extension).toList := by
    cases (package os directory label).archive <;> decide
  have beginning : machineOfWord? (directory ++ "/mongodb").toList = none :=
    machineOfWord?_eq_none (by simp : '/' ∈ _) (by decide)
  have placeholder : machineOfWord? ('\x7b' ::
      ("version\x7d" ++ (package os directory label).archive.extension).toList) = none :=
    machineOfWord?_eq_none List.mem_cons_self (by decide)
  rw [UrlTemplate.machines, pieces, Text.splitAll_append, Text.splitAll_append,
    Text.splitAll_of_not_mem whole, Text.splitAll_of_not_mem last]
  simp only [List.filterMap_append, List.filterMap_cons, List.filterMap_nil, beginning,
    placeholder, List.nil_append, List.append_nil]
  rfl

/-- A build's label has one word for its processor, and its key has none. -/
theorem machines_linuxBuild : ∀ build ∈ linuxBuilds,
    (package .linux "linux" build.label).machines = [(build.arch, .b64)] := by
  intro build listed
  have keys : ∀ build ∈ linuxBuilds, (labelWords build.key).filterMap machineOfWord? = [] := by
    decide +kernel
  have processor : (labelWords (LinuxBuild.archKey build.arch)).filterMap machineOfWord? =
      [(build.arch, .b64)] := by
    cases build.arch <;> decide
  have pieces : build.label.toList =
      "linux".toList ++ '-' ::
        ((LinuxBuild.archKey build.arch).toList ++ '-' :: build.key.toList) := by
    simp [LinuxBuild.label, ToString.toString]
  have system : (Text.splitAll '-' "linux".toList).filterMap machineOfWord? = [] := by decide
  rw [machines_package (by decide), labelWords, pieces, Text.splitAll_append, Text.splitAll_append,
    List.filterMap_append, List.filterMap_append, system, List.nil_append]
  exact (congrArg₂ (· ++ ·) processor (keys build listed)).trans (List.append_nil _)

/-!
## The machine served
-/

/-- The machine whose packages the rules of an operating system name for a machine. -/
def machineServed (os : Os) (machine : CpuArch × BitSize) : CpuArch × BitSize :=
  if os = .windows ∧ machine.2 = .b32 then (.x86, .b32) else machine

theorem machineServed_bits (os : Os) (machine : CpuArch × BitSize) :
    (machineServed os machine).2 = machine.2 := by
  rw [machineServed]
  split
  · next excepted => exact excepted.2.symm
  · rfl

theorem machineServed_eq_iff (os : Os) (machine : CpuArch × BitSize) :
    machineServed os machine = machine ↔ ¬ (os = .windows ∧ machine = (.arm, .b32)) := by
  obtain ⟨arch, bits⟩ := machine
  cases os <;> cases arch <;> cases bits <;> decide

variable {d : Distribution} {rule : Rule} {t : UrlTemplate}

theorem machines_of_buildMatch (first : linuxBuildTable.firstMatch? d = some rule)
    (found : rule.template? = some t) : t.machines = [d.platform.machine] := by
  obtain ⟨build, listed, rfl⟩ := List.mem_map.mp (List.mem_of_find?_eq_some first)
  have holds : build.rule.matcher.holds d = true := by
    simpa using List.find?_some first
  simp only [LinuxBuild.rule, LinuxBuild.matcher, Match.holds_and, Match.holds, Bool.and_eq_true,
    and_assoc, decide_eq_true_eq] at holds
  obtain ⟨arch, bits, -⟩ := holds
  cases found
  rw [machines_linuxBuild build listed, Platform.machine, arch, bits]

theorem machines_of_candidate (os : Os) (machine : CpuArch × BitSize) :
    ∀ rule ∈ Rule.candidates machine (if os = .linux then anyLinuxTable else builtinTable os).rules,
      ∀ t ∈ rule.template?, t.machines = [machineServed os machine] := by
  -- The builds for particular Linux distributions are too many to be gone through for each machine.
  obtain ⟨arch, bits⟩ := machine
  cases os <;> cases arch <;> cases bits <;> decide +kernel

theorem machines_of_firstMatch (first : (builtinTable d.platform.os).firstMatch? d = some rule)
    (found : rule.template? = some t) :
    t.machines = [machineServed d.platform.os d.platform.machine] := by
  have served := machines_of_candidate d.platform.os d.platform.machine rule
  cases os : d.platform.os with
  | linux =>
      rw [os] at first served
      have both : (linuxBuildTable.firstMatch? d).or (anyLinuxTable.firstMatch? d) = some rule := by
        rw [← first]
        exact List.find?_append.symm
      rcases Option.or_eq_some_iff.mp both with build | ⟨-, other⟩
      · exact machines_of_buildMatch build found
      · exact served (Rule.mem_candidates other) t found
  | windows | macOs | solaris | freeBsd =>
      rw [os] at first served
      exact served (Rule.mem_candidates first) t found

/-- Resolving by the rules of the platform's own operating system names a package for the platform's
processor and word size, except that 32-bit Windows on ARM is given the packages for x86. -/
theorem resolve_machine {artifact : Artifact}
    (resolved : (builtinTable d.platform.os).resolve d = .ok artifact) :
    ∃ t, (builtinTable d.platform.os).chosen? d = some t ∧ t.artifact d.version = artifact ∧
      t.machines = [machineServed d.platform.os d.platform.machine] ∧
      t.machines.map Prod.snd = [d.platform.bits] ∧
      (t.machines = [d.platform.machine] ↔
        ¬ (d.platform.os = .windows ∧ d.platform.machine = (.arm, .b32))) := by
  obtain ⟨rule, first, serves, decided⟩ := resolve_builtinTable d.platform.os d
  rw [decided] at resolved
  cases serves with
  | rejects worded =>
      rw [Rule.decide_reject] at resolved
      cases resolved
  | names package =>
      rw [Rule.decide_template] at resolved
      have machines := machines_of_firstMatch first rfl
      refine ⟨_, ?_, Except.ok.inj resolved, machines, ?_, ?_⟩
      · rw [RuleTable.chosen?, first]
        rfl
      · rw [machines]
        exact congrArg (fun bits => [bits]) (machineServed_bits _ _)
      · rw [machines, List.singleton_inj]
        exact machineServed_eq_iff _ _

/-- A package for ARM, found among the builds for particular distributions. -/
theorem resolve_machine_on_ubuntu :
    let d : Distribution := ⟨⟨"4.2.9", ⟨4, 2, 9⟩⟩, ⟨.linux, .arm, .b64, some .ubuntu1804⟩⟩
    let artifact : Artifact :=
      ⟨.tgz, "linux/mongodb-linux-aarch64-ubuntu1804-4.2.9.tgz", "bin", ""⟩
    (builtinTable .linux).resolve d = .ok artifact ∧
      ∃ t, (builtinTable .linux).chosen? d = some t ∧ t.artifact d.version = artifact ∧
        t.machines = [(.arm, .b64)] := by
  intro d artifact
  have resolved : (builtinTable d.platform.os).resolve d = .ok artifact :=
    eq_ok_of_toOption (by decide +kernel)
  obtain ⟨t, chosen, found, machines, -⟩ := resolve_machine resolved
  exact ⟨resolved, t, chosen, found, machines⟩

/-- The rule for 32-bit Windows does not ask for the processor and comes before the one that rules
out ARM. -/
theorem x86_package_for_arm :
    let d : Distribution := ⟨⟨"3.0.0", ⟨3, 0, 0⟩⟩, ⟨.windows, .arm, .b32, none⟩⟩
    let t : UrlTemplate := package .windows "win32" "win32-i386"
    (builtinTable .windows).chosen? d = some t ∧
      (builtinTable .windows).resolve d = .ok (t.artifact d.version) ∧
      t.machines = [(.x86, .b32)] ∧ d.platform.machine = (.arm, .b32) := by
  refine ⟨by decide +kernel, eq_ok_of_toOption (by decide +kernel), by decide +kernel, rfl⟩

end Catalog

end ThrowawayServer
