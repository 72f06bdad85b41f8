import ThrowawayServer.Platform.Detect
import ThrowawayServer.Proofs.Platform.Override
import ThrowawayServer.Run.Config

/-!
# Release tags of the right operating system

A detected host has no release tag but one of its own operating system, and an override keeps it that
way: it drops the tag with the operating system, or puts one in its place that fits. Every other part
is what its name reads as, or stays, so that a second application changes nothing.
-/

set_option autoImplicit false

namespace ThrowawayServer

/-- The release tag, if there is one, belongs to the operating system. -/
def Platform.Consistent (platform : Platform) : Prop :=
  ∀ tag, platform.osVersion = some tag → tag.os = platform.os

/-!
## Detected hosts
-/

namespace OsRelease

/-- An answer that can only be a release of Linux. -/
def OnLinux (answer : Option OsVersion) : Prop :=
  ∀ tag, answer = some tag → tag.os = .linux

theorem OnLinux.none : OnLinux none :=
  fun _ answered => nomatch answered

theorem OnLinux.some {tag : OsVersion} (linux : tag.os = .linux) : OnLinux (some tag) := by
  intro _ answered
  cases answered
  exact linux

theorem OnLinux.ite {condition : Prop} [Decidable condition] {first second : Option OsVersion}
    (left : OnLinux first) (right : OnLinux second) :
    OnLinux (if condition then first else second) := by
  split
  · exact left
  · exact right

theorem onLinux_ubuntu? (release : UInt32 × UInt32) : OnLinux (ubuntu? release) := by
  have known : ∀ entry ∈ ubuntuReleases, entry.2.os = .linux := by decide
  intro tag answered
  obtain ⟨entry, found, rfl⟩ := Option.map_eq_some_iff.mp answered
  exact known entry (List.mem_of_find?_eq_some found)

theorem onLinux_mint? (major : UInt32) : OnLinux (mint? major) :=
  .ite (.some rfl) (.ite (.some rfl) (.ite (.some rfl) (.ite (.some rfl)
    (.ite (.some rfl) .none))))

theorem onLinux_debian? (major : UInt32) : OnLinux (debian? major) :=
  .ite (.some rfl) (.ite (.some rfl) (.ite (.some rfl) (.ite (.some rfl)
    (.ite (.some rfl) (.ite (.some rfl) .none)))))

theorem onLinux_rhel? (major : UInt32) : OnLinux (rhel? major) :=
  .ite (.some rfl) (.ite (.some rfl) (.ite (.some rfl) (.ite (.some rfl) .none)))

theorem onLinux_amazon? (major : UInt32) : OnLinux (amazon? major) :=
  .ite (.some rfl) (.ite (.some rfl) (.ite (.some rfl) .none))

theorem onLinux_suse? (major : UInt32) : OnLinux (suse? major) :=
  .ite (.some rfl) (.ite (.some rfl) .none)

theorem onLinux_tag? (id : List Char) (likes : List (List Char)) (release : UInt32 × UInt32) :
    OnLinux (tag? id likes release) := by
  unfold tag?
  refine .ite (onLinux_ubuntu? release) (.ite (onLinux_mint? release.1) ?_)
  refine .ite (onLinux_debian? release.1) (.ite (onLinux_rhel? release.1) ?_)
  refine .ite (onLinux_amazon? release.1) (.ite (onLinux_suse? release.1) ?_)
  exact .ite (onLinux_rhel? release.1) .none

theorem onLinux_detect? (content : String) : OnLinux (detect? content) := by
  intro tag answered
  obtain ⟨release, -, tagged⟩ := Option.bind_eq_some_iff.mp answered
  exact onLinux_tag? _ _ release tag tagged

end OsRelease

theorem Platform.consistent_ofHost (os : Os) (arch : CpuArch) (bits : BitSize)
    (release : Option String) : (ofHost os arch bits release).Consistent := by
  intro tag tagged
  dsimp only [ofHost] at tagged ⊢
  split at tagged
  · next linux =>
    obtain ⟨content, -, found⟩ := Option.bind_eq_some_iff.mp tagged
    rw [OsRelease.onLinux_detect? content tag found, linux]
  · cases tagged

theorem Platform.exists_ofHost_of_detect {header : List UInt8} {release : Option String}
    {host : Platform} (detected : detect header release = .ok host) :
    ∃ arch bits, host = ofHost .linux arch bits release := by
  unfold detect at detected
  dsimp only at detected
  split at detected
  · next arch bits _ _ =>
    cases detected
    exact ⟨arch, bits, rfl⟩
  · cases detected
  · cases detected

/-!
## Parts put on a platform
-/

namespace OverrideParts

variable {parts : OverrideParts} {base result : Platform}

/-- The tag that the parts have for a platform; the rest is as in `machine`. -/
theorem putOn_ok_iff :
    parts.putOn base = .ok result ↔
      parts.osVersion = none ∧ result = parts.machine base ∨
        ∃ tag, parts.osVersion = some tag ∧ tag.os = parts.os.getD base.os ∧
          result = { parts.machine base with osVersion := some tag } := by
  rw [putOn]
  split
  · next absent => simp [absent, eq_comm]
  · next tag given => simp [given, Platform.withOsVersion_ok_iff, machine]

theorem machine_consistent (consistent : base.Consistent) : (parts.machine base).Consistent := by
  intro tag tagged
  dsimp only [machine] at tagged ⊢
  split at tagged
  · next same => rw [same, consistent tag tagged]
  · cases tagged

theorem putOn_consistent (consistent : base.Consistent) (put : parts.putOn base = .ok result) :
    result.Consistent := by
  rcases putOn_ok_iff.mp put with ⟨-, rfl⟩ | ⟨tag, -, fits, rfl⟩
  · exact machine_consistent consistent
  · intro tag' tagged
    cases tagged
    exact fits

theorem getD_getD {α : Type} (part : Option α) (old : α) :
    part.getD (part.getD old) = part.getD old := by
  cases part <;> rfl

theorem putOn_repeats (put : parts.putOn base = .ok result) : parts.putOn result = .ok result := by
  rcases putOn_ok_iff.mp put with ⟨absent, rfl⟩ | ⟨tag, given, fits, rfl⟩
  -- The first application has settled the operating system, so that the second one drops no tag.
  · refine putOn_ok_iff.mpr (.inl ⟨absent, ?_⟩)
    simp only [machine, getD_getD, if_true]
  · refine putOn_ok_iff.mpr (.inr ⟨tag, given, fits.trans (getD_getD _ _).symm, ?_⟩)
    simp only [machine, getD_getD]

end OverrideParts

/-!
## Overridden platforms
-/

/-- A part of a platform that has been overridden: what its name reads as, or what it was. -/
inductive Takes {α : Type} (read : String → Except PlatformError α) (old : α) :
    Option String → α → Prop where
  | named {text : String} {new : α} (reads : read text = .ok new) : Takes read old (some text) new
  | kept : Takes read old none old

theorem takes_of_parseGiven {α : Type} {read : String → Except PlatformError α}
    {given : Option String} {part : Option α} (old : α)
    (reads : PlatformOverride.parseGiven read given = .ok part) :
    Takes read old given (part.getD old) := by
  cases part with
  | none =>
      cases PlatformOverride.parseGiven_none_iff.mp reads
      exact .kept
  | some new =>
      obtain ⟨text, rfl, text_reads⟩ := PlatformOverride.parseGiven_some_iff.mp reads
      exact .named text_reads

namespace PlatformOverride

variable {o : PlatformOverride} {base result : Platform} {parts : OverrideParts}

/-- The override names another operating system than the platform's. -/
def NamesOtherOs (o : PlatformOverride) (base : Platform) : Prop :=
  ∃ text os, o.os = some text ∧ Os.parse text = .ok os ∧ os ≠ base.os

/-- The release tag of a platform that has been overridden. -/
inductive TakesTag (o : PlatformOverride) (base : Platform) : Option OsVersion → Prop where
  | named {text : String} {tag : OsVersion} (given : o.osVersion = some text)
      (reads : OsVersion.parse text = .ok tag) : TakesTag o base (some tag)
  | cleared (absent : o.osVersion = none) (other : o.NamesOtherOs base) : TakesTag o base none
  | kept (absent : o.osVersion = none) (same : ¬ o.NamesOtherOs base) :
      TakesTag o base base.osVersion

/-- What putting an override onto a platform comes to if it succeeds. -/
structure Yields (o : PlatformOverride) (base result : Platform) : Prop where
  consistent : result.Consistent
  os : Takes Os.parse base.os o.os result.os
  arch : Takes CpuArch.parse base.arch o.arch result.arch
  bits : Takes BitSize.parse base.bits o.bits result.bits
  osVersion : o.TakesTag base result.osVersion
  repeats : o.apply result = .ok result

theorem exists_parts_of_apply (applied : o.apply base = .ok result) :
    ∃ parts, o.parts = .ok parts ∧ parts.putOn base = .ok result := by
  rw [apply_eq_bind] at applied
  exact exists_of_bind_ok applied

theorem namesOtherOs_iff (reads : o.ReadsAs parts) :
    o.NamesOtherOs base ↔ parts.os.getD base.os ≠ base.os := by
  constructor
  · rintro ⟨text, os, given, os_reads, other⟩
    have os_some := Except.ok.inj
      (reads.os.symm.trans (parseGiven_some_iff.mpr ⟨text, given, os_reads⟩))
    rw [os_some]
    exact other
  · intro other
    cases os_eq : parts.os with
    | none =>
        rw [os_eq] at other
        exact absurd rfl other
    | some os =>
        rw [os_eq] at other
        obtain ⟨text, given, os_reads⟩ := parseGiven_some_iff.mp (os_eq ▸ reads.os)
        exact ⟨text, os, given, os_reads, other⟩

theorem takesTag_of_putOn (reads : o.ReadsAs parts) (put : parts.putOn base = .ok result) :
    o.TakesTag base result.osVersion := by
  rcases OverrideParts.putOn_ok_iff.mp put with ⟨none_read, rfl⟩ | ⟨tag, some_read, -, rfl⟩
  · have absent := parseGiven_none_iff.mp (none_read ▸ reads.osVersion)
    dsimp only [OverrideParts.machine]
    split
    · next same => exact .kept absent fun other => (namesOtherOs_iff reads).mp other same
    · next other => exact .cleared absent ((namesOtherOs_iff reads).mpr other)
  · obtain ⟨text, given, tag_reads⟩ := parseGiven_some_iff.mp (some_read ▸ reads.osVersion)
    exact .named given tag_reads

theorem yields_of_apply (consistent : base.Consistent) (applied : o.apply base = .ok result) :
    o.Yields base result := by
  obtain ⟨parts, read, put⟩ := exists_parts_of_apply applied
  have reads := readsAs_of_parts read
  have machine : result.os = parts.os.getD base.os ∧ result.arch = parts.arch.getD base.arch ∧
      result.bits = parts.bits.getD base.bits := by
    rcases OverrideParts.putOn_ok_iff.mp put with ⟨-, rfl⟩ | ⟨tag, -, -, rfl⟩
    · exact ⟨rfl, rfl, rfl⟩
    · exact ⟨rfl, rfl, rfl⟩
  constructor
  case consistent => exact OverrideParts.putOn_consistent consistent put
  case os =>
    rw [machine.1]
    exact takes_of_parseGiven base.os reads.os
  case arch =>
    rw [machine.2.1]
    exact takes_of_parseGiven base.arch reads.arch
  case bits =>
    rw [machine.2.2]
    exact takes_of_parseGiven base.bits reads.bits
  case osVersion => exact takesTag_of_putOn reads put
  case repeats =>
    rw [apply_eq_bind, read]
    exact OverrideParts.putOn_repeats put

theorem apply_of_isEmpty (empty : o.isEmpty = true) (base : Platform) : o.apply base = .ok base := by
  obtain ⟨os, arch, bits, osVersion⟩ := o
  simp only [isEmpty, Bool.and_eq_true, Option.isNone_iff_eq_none] at empty
  obtain ⟨⟨⟨rfl, rfl⟩, rfl⟩, rfl⟩ := empty
  rfl

end PlatformOverride

/-!
## Targets of runs
-/

namespace RunConfig

variable {config : RunConfig} {host result : Platform}

/-- Whether an override is empty cannot be told from the target. -/
theorem targetPlatform_eq_apply (config : RunConfig) (host : Platform) :
    config.targetPlatform host =
      ((config.platform.getD {}).apply host).mapError ConfigError.platform := by
  unfold targetPlatform
  split
  · next o given =>
    rw [given, Option.getD_some]
    split
    · next empty =>
      rw [PlatformOverride.apply_of_isEmpty empty]
      rfl
    · rfl
  · next absent =>
    rw [absent, Option.getD_none]
    rfl

theorem targetPlatform_consistent (consistent : host.Consistent)
    (targeted : config.targetPlatform host = .ok result) : result.Consistent := by
  rw [targetPlatform_eq_apply] at targeted
  have applied := ok_of_mapError targeted
  exact (PlatformOverride.yields_of_apply consistent applied).consistent

end RunConfig

/-- Release tags belong to the operating system wherever a platform comes from: detected, overridden,
or the target of a run. -/
structure TagsFit (o : PlatformOverride) (base : Platform) (config : RunConfig) : Prop where
  overridden : base.Consistent → ∀ result, o.apply base = .ok result → o.Yields base result
  empty : o.isEmpty = true → o.apply base = .ok base
  shortcut : config.platform = some o →
    config.targetPlatform base = (o.apply base).mapError ConfigError.platform
  detected : ∀ header release host, Platform.detect header release = .ok host → host.Consistent
  host : ∀ os arch bits release, (Platform.ofHost os arch bits release).Consistent
  target : ∀ os arch bits release result,
    config.targetPlatform (.ofHost os arch bits release) = .ok result → result.Consistent

theorem tags_fit (o : PlatformOverride) (base : Platform) (config : RunConfig) :
    TagsFit o base config := by
  constructor
  case overridden => exact fun consistent _ => PlatformOverride.yields_of_apply consistent
  case empty => exact fun empty => PlatformOverride.apply_of_isEmpty empty base
  case shortcut =>
    intro given
    rw [RunConfig.targetPlatform_eq_apply, given, Option.getD_some]
  case detected =>
    intro header release host detected
    obtain ⟨arch, bits, rfl⟩ := Platform.exists_ofHost_of_detect detected
    exact Platform.consistent_ofHost .linux arch bits release
  case host => exact Platform.consistent_ofHost
  case target =>
    intro os arch bits release result
    exact RunConfig.targetPlatform_consistent (Platform.consistent_ofHost os arch bits release)

/-- The tag of the host goes with its operating system. -/
example :
    (({ os := some "Darwin" } : PlatformOverride).apply
      ⟨.linux, .x86, .b64, some .ubuntu2004⟩).toOption = some ⟨.macOs, .x86, .b64, none⟩ := by
  decide +kernel

end ThrowawayServer
