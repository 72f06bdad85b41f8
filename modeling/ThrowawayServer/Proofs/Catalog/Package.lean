import ThrowawayServer.Catalog.OtherBuilds
import ThrowawayServer.Proofs.Version.Canonical

/-!
# Packages that the rules name

Every rule of an operating system either rejects, in words of its own, or names a package of that
system: a directory, and a label of hyphenated words that no version can begin with. The last rule
takes whatever is left, so that there is always a first match.
-/

set_option autoImplicit false

namespace ThrowawayServer

/-- A character of directories, labels and versions. -/
def isNameChar (c : Char) : Bool := c.isAlphanum || c = '.' || c = '-' || c = '+' || c = '_'

/-- The beginning of the error of a table in which nothing matches. -/
def unmatchedStart : List Char := "no rule in the ".toList

namespace Catalog

/-- The operating system and the directory of packages that a first word of labels stands for. -/
def families : List (String × Os × String) :=
  [("linux", .linux, "linux"), ("win32", .windows, "win32"), ("windows", .windows, "windows"),
    ("osx", .macOs, "osx"), ("macos", .macOs, "osx"), ("sunos5", .solaris, "sunos5")]

def labelWords (label : String) : List (List Char) := Text.splitAll '-' label.toList

/-- A directory and a label that packages of an operating system can have. -/
structure IsPackage (os : Os) (directory label : String) : Prop where
  family : (labelWords label).head?.bind (fun word => families.lookup (String.ofList word)) =
    some (os, directory)
  words : ∀ word ∈ labelWords label, Version.isWord word
  label_chars : ∀ c ∈ label.toList, isNameChar c
  directory_nonempty : directory ≠ ""
  directory_chars : ∀ c ∈ directory.toList, isNameChar c

instance (os : Os) (directory label : String) : Decidable (IsPackage os directory label) :=
  decidable_of_iff
    (((labelWords label).head?.bind (fun word => families.lookup (String.ofList word)) =
        some (os, directory)) ∧ (labelWords label).all Version.isWord ∧
      label.toList.all isNameChar ∧ directory ≠ "" ∧ directory.toList.all isNameChar)
    (by
      simp only [List.all_eq_true]
      exact ⟨fun ⟨family, words, chars, nonempty, plain⟩ => ⟨family, words, chars, nonempty, plain⟩,
        fun package => ⟨package.family, package.words, package.label_chars,
          package.directory_nonempty, package.directory_chars⟩⟩)

end Catalog

/-- What a rule among the rules of an operating system does. -/
inductive Rule.Serves (os : Os) : Rule → Prop where
  | rejects {label : String} {matcher : Match}
      (worded : unmatchedStart.isPrefixOf label.toList = false) :
      Serves os ⟨label, matcher, .reject⟩
  | names {label directory product : String} {matcher : Match}
      (package : Catalog.IsPackage os directory product) :
      Serves os ⟨label, matcher, .find (.template (Catalog.package os directory product))⟩

namespace RuleTable

/-- Every rule of the table serves an operating system. -/
def Serves (os : Os) (table : RuleTable) : Prop := ∀ rule ∈ table.rules, rule.Serves os

variable {os : Os} {table other : RuleTable} {d : Distribution}

namespace Serves

theorem empty {name : String} : (RuleTable.empty name).Serves os :=
  fun _ member => nomatch member

theorem concat {rule : Rule} (serves : table.Serves os) (last : rule.Serves os) :
    ∀ member ∈ table.rules ++ [rule], member.Serves os := by
  intro member inside
  rcases List.mem_append.mp inside with inside | inside
  · exact serves member inside
  · rw [List.mem_singleton.mp inside]
    exact last

theorem rule (serves : table.Serves os) {label directory product : String} {matcher : Match}
    (package : Catalog.IsPackage os directory product) :
    (table.rule label matcher (.template (Catalog.package os directory product))).Serves os :=
  serves.concat (.names package)

theorem reject (serves : table.Serves os) {reason : String} {matcher : Match}
    (worded : unmatchedStart.isPrefixOf reason.toList = false) :
    (table.reject reason matcher).Serves os :=
  serves.concat (.rejects worded)

theorem extend (serves : table.Serves os) (later : other.Serves os) :
    (table.extend other).Serves os := by
  intro rule member
  rcases List.mem_append.mp member with member | member
  · exact serves rule member
  · exact later rule member

end Serves

/-- Some rule of the table matches, whatever the distribution. -/
def Total (table : RuleTable) : Prop := ∀ d, (table.firstMatch? d).isSome

theorem total_otherwiseReject (table : RuleTable) (reason : String) :
    (table.otherwiseReject reason).Total := by
  intro d
  rw [firstMatch?, List.find?_isSome]
  exact ⟨_, List.mem_append_right _ List.mem_cons_self, by rw [Match.holds]⟩

theorem Total.extend (table : RuleTable) (total : other.Total) : (table.extend other).Total := by
  intro d
  obtain ⟨rule, member, holds⟩ := List.find?_isSome.mp (total d)
  exact List.find?_isSome.mpr ⟨rule, List.mem_append_right _ member, holds⟩

end RuleTable

namespace Catalog

open RuleTable

theorem linuxBuild_isPackage :
    ∀ build ∈ linuxBuilds, IsPackage .linux "linux" build.label := by
  decide +kernel

theorem linuxBuildTable_serves : linuxBuildTable.Serves .linux := by
  intro rule member
  obtain ⟨build, listed, rfl⟩ := List.mem_map.mp member
  exact .names (linuxBuild_isPackage build listed)

theorem anyLinuxTable_serves : anyLinuxTable.Serves .linux :=
  Serves.empty
    |>.rule (by decide)
    |>.reject (by decide)
    |>.reject (by decide)
    |>.rule (by decide)
    |>.reject (by decide)

theorem windowsTable_serves : windowsTable.Serves .windows :=
  Serves.empty
    |>.rule (by decide)
    |>.reject (by decide)
    |>.reject (by decide)
    |>.rule (by decide)
    |>.reject (by decide)
    |>.rule (by decide)
    |>.rule (by decide)
    |>.rule (by decide)
    |>.rule (by decide)
    |>.reject (by decide)

theorem macOsTable_serves : macOsTable.Serves .macOs :=
  Serves.empty
    |>.reject (by decide)
    |>.rule (by decide)
    |>.reject (by decide)
    |>.rule (by decide)
    |>.rule (by decide)
    |>.rule (by decide)
    |>.reject (by decide)

theorem solarisTable_serves : solarisTable.Serves .solaris :=
  Serves.empty |>.rule (by decide) |>.reject (by decide)

theorem freeBsdTable_serves : freeBsdTable.Serves .freeBsd :=
  Serves.empty |>.reject (by decide)

theorem builtinTable_serves (os : Os) : (builtinTable os).Serves os := by
  cases os with
  | linux => exact linuxBuildTable_serves.extend anyLinuxTable_serves
  | windows => exact windowsTable_serves
  | macOs => exact macOsTable_serves
  | solaris => exact solarisTable_serves
  | freeBsd => exact freeBsdTable_serves

theorem builtinTable_total (os : Os) : (builtinTable os).Total := by
  cases os with
  | linux => exact (total_otherwiseReject _ _).extend linuxBuildTable
  | windows | macOs | solaris | freeBsd => exact total_otherwiseReject _ _

/-- A distribution is always decided by the first match among the rules of its system. -/
theorem resolve_builtinTable (os : Os) (d : Distribution) :
    ∃ rule, (builtinTable os).firstMatch? d = some rule ∧ rule.Serves os ∧
      (builtinTable os).resolve d = rule.decide d := by
  obtain ⟨rule, first⟩ := Option.isSome_iff_exists.mp (builtinTable_total os d)
  refine ⟨rule, first, builtinTable_serves os rule (List.mem_of_find?_eq_some first), ?_⟩
  rw [resolve, first]

end Catalog

end ThrowawayServer
