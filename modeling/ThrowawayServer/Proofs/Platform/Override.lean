import ThrowawayServer.Platform.Override

/-!
# What an override reads as

Checking an override and putting it onto a platform begin alike: the names are read in the order
operating system, processor, word size, release tag, and the first one that cannot be read is the
fault. They differ only in what they do with the parts. So an override that passes the check can
fail on a platform in one way: its release tag stands alone and belongs to another operating system.
-/

set_option autoImplicit false

namespace ThrowawayServer

theorem exists_of_bind_ok {α β ε : Type} {first : Except ε α} {next : α → Except ε β} {result : β}
    (succeeded : first >>= next = .ok result) :
    ∃ value, first = .ok value ∧ next value = .ok result := by
  cases first with
  | error error => cases succeeded
  | ok value => exact ⟨value, rfl, succeeded⟩

theorem ok_of_mapError {α ε ε' : Type} {answer : Except ε α} {f : ε → ε'} {value : α}
    (answered : answer.mapError f = .ok value) : answer = .ok value := by
  cases answer with
  | error error => cases answered
  | ok found =>
      cases answered
      rfl

/-- The parts that the names of an override stand for. -/
structure OverrideParts where
  os : Option Os
  arch : Option CpuArch
  bits : Option BitSize
  osVersion : Option OsVersion

namespace OverrideParts

/-- Whether the parts fit together. -/
def check (parts : OverrideParts) : Except PlatformError Unit :=
  match parts.os, parts.osVersion with
  | some os, some osVersion =>
    if osVersion.os = os then .ok () else .error (.mismatchedOsVersion os osVersion)
  | _, _ => .ok ()

/-- A platform with the parts in place of its own, the release tag aside. Another operating system
drops the tag. -/
def machine (parts : OverrideParts) (base : Platform) : Platform where
  os := parts.os.getD base.os
  arch := parts.arch.getD base.arch
  bits := parts.bits.getD base.bits
  osVersion := if parts.os.getD base.os = base.os then base.osVersion else none

/-- A platform with the parts in place of its own. -/
def putOn (parts : OverrideParts) (base : Platform) : Except PlatformError Platform :=
  match parts.osVersion with
  | none => .ok (parts.machine base)
  | some osVersion => (parts.machine base).withOsVersion osVersion

end OverrideParts

namespace PlatformOverride

/-- The names of an override read in order. -/
def parts (o : PlatformOverride) : Except PlatformError OverrideParts := do
  let os ← parseGiven Os.parse o.os
  let arch ← parseGiven CpuArch.parse o.arch
  let bits ← parseGiven BitSize.parse o.bits
  let osVersion ← parseGiven OsVersion.parse o.osVersion
  return { os, arch, bits, osVersion }

/-!
## Both ways begin alike
-/

theorem validate_eq_bind (o : PlatformOverride) : o.validate = o.parts >>= OverrideParts.check := by
  simp only [parts, bind_assoc, pure_bind]
  rfl

/-- A name that may be absent is read, or nothing is. -/
theorem bind_parseGiven {α β : Type} (read : String → Except PlatformError α)
    (given : Option String) (next : Option α → Except PlatformError β) :
    parseGiven read given >>= next =
      match given with
      | none => next none
      | some text => read text >>= fun part => next (some part) := by
  cases given with
  | none => rfl
  | some text =>
      dsimp only [parseGiven]
      cases read text with
      | error fault => rfl
      | ok part => rfl

theorem applyOs_eq_bind (o : PlatformOverride) (base : Platform) :
    o.applyOs base = parseGiven Os.parse o.os >>= fun os =>
      pure { base with
        os := os.getD base.os
        osVersion := if os.getD base.os = base.os then base.osVersion else none } := by
  rw [bind_parseGiven, applyOs]
  cases o.os with
  | none =>
      dsimp only [Option.getD_none]
      rw [if_pos rfl]
      rfl
  | some text => rfl

theorem applyArch_eq_bind (o : PlatformOverride) (base : Platform) :
    o.applyArch base = parseGiven CpuArch.parse o.arch >>= fun arch =>
      pure { base with arch := arch.getD base.arch } := by
  rw [bind_parseGiven]
  rfl

theorem applyBits_eq_bind (o : PlatformOverride) (base : Platform) :
    o.applyBits base = parseGiven BitSize.parse o.bits >>= fun bits =>
      pure { base with bits := bits.getD base.bits } := by
  rw [bind_parseGiven]
  rfl

theorem applyOsVersion_eq_bind (o : PlatformOverride) (base : Platform) :
    o.applyOsVersion base = parseGiven OsVersion.parse o.osVersion >>= fun osVersion =>
      match osVersion with
      | none => .ok base
      | some osVersion => base.withOsVersion osVersion := by
  rw [bind_parseGiven]
  rfl

theorem apply_eq_bind (o : PlatformOverride) (base : Platform) :
    o.apply base = o.parts >>= fun parts => parts.putOn base := by
  simp only [apply, applyOs_eq_bind, applyArch_eq_bind, applyBits_eq_bind, applyOsVersion_eq_bind,
    parts, OverrideParts.putOn, bind_assoc, pure_bind]
  rfl

/-!
## Parts and names
-/

section Names

variable {α : Type} {read : String → Except PlatformError α} {given : Option String} {part : α}

theorem parseGiven_none_iff : parseGiven read given = .ok none ↔ given = none := by
  cases given with
  | none => exact iff_of_true rfl rfl
  | some text =>
      rw [parseGiven]
      cases read text with
      | error fault => simp [Except.map]
      | ok other => simp [Except.map]

theorem parseGiven_some_iff :
    parseGiven read given = .ok (some part) ↔
      ∃ text, given = some text ∧ read text = .ok part := by
  cases given with
  | none => simp [parseGiven]
  | some text =>
      rw [parseGiven]
      cases answer : read text with
      | error fault => simp [Except.map, answer]
      | ok other => simp [Except.map, answer]

end Names

/-- Every part is what its name reads as. -/
structure ReadsAs (o : PlatformOverride) (parts : OverrideParts) : Prop where
  os : parseGiven Os.parse o.os = .ok parts.os
  arch : parseGiven CpuArch.parse o.arch = .ok parts.arch
  bits : parseGiven BitSize.parse o.bits = .ok parts.bits
  osVersion : parseGiven OsVersion.parse o.osVersion = .ok parts.osVersion

theorem readsAs_of_parts {o : PlatformOverride} {parts : OverrideParts}
    (read : o.parts = .ok parts) : o.ReadsAs parts := by
  obtain ⟨os, os_read, read⟩ := exists_of_bind_ok read
  obtain ⟨arch, arch_read, read⟩ := exists_of_bind_ok read
  obtain ⟨bits, bits_read, read⟩ := exists_of_bind_ok read
  obtain ⟨osVersion, osVersion_read, read⟩ := exists_of_bind_ok read
  cases read
  exact ⟨os_read, arch_read, bits_read, osVersion_read⟩

end PlatformOverride

/-!
## Where the two ways part
-/

theorem Platform.withOsVersion_ok_iff {platform result : Platform} {tag : OsVersion} :
    platform.withOsVersion tag = .ok result ↔
      tag.os = platform.os ∧ result = { platform with osVersion := some tag } := by
  rw [withOsVersion]
  split
  · next same => simp [same, eq_comm]
  · next different => simp [different]

theorem Platform.withOsVersion_error_iff {platform : Platform} {tag : OsVersion}
    {fault : PlatformError} :
    platform.withOsVersion tag = .error fault ↔
      tag.os ≠ platform.os ∧ fault = .mismatchedOsVersion platform.os tag := by
  rw [withOsVersion]
  split
  · next same => simp [same]
  · next different => simp [different, eq_comm]

namespace OverrideParts

variable {parts : OverrideParts} {base : Platform} {fault : PlatformError}

theorem check_error_iff :
    parts.check = .error fault ↔
      ∃ os tag, parts.os = some os ∧ parts.osVersion = some tag ∧ tag.os ≠ os ∧
        fault = .mismatchedOsVersion os tag := by
  rw [check]
  split
  · next os tag os_given tag_given =>
    split
    · next same => simp [os_given, tag_given, same]
    · next different =>
      constructor
      · intro failed
        cases failed
        exact ⟨os, tag, os_given, tag_given, different, rfl⟩
      · rintro ⟨os', tag', os_eq, tag_eq, -, rfl⟩
        cases os_given.symm.trans os_eq
        cases tag_given.symm.trans tag_eq
        rfl
  · next apart =>
    constructor
    · intro passes
      cases passes
    · rintro ⟨os, tag, os_given, tag_given, -⟩
      exact absurd tag_given (apart os tag os_given)

theorem putOn_error_iff :
    parts.putOn base = .error fault ↔
      ∃ tag, parts.osVersion = some tag ∧ tag.os ≠ parts.os.getD base.os ∧
        fault = .mismatchedOsVersion (parts.os.getD base.os) tag := by
  rw [putOn]
  split
  · next absent => simp [absent]
  · next tag tag_given => simp [tag_given, Platform.withOsVersion_error_iff, machine]

/-- With the operating system given, the platform has no say in whether the release tag fits. -/
theorem putOn_error_iff_check_error {os : Os} (os_given : parts.os = some os) :
    parts.putOn base = .error fault ↔ parts.check = .error fault := by
  rw [putOn_error_iff, check_error_iff, os_given]
  constructor
  · rintro ⟨tag, tag_given, different, rfl⟩
    exact ⟨os, tag, rfl, tag_given, different, rfl⟩
  · rintro ⟨os', tag, os_eq, tag_given, different, rfl⟩
    cases os_eq
    exact ⟨tag, tag_given, different, rfl⟩

theorem check_ok_of_os_absent (os_absent : parts.os = none) : parts.check = .ok () := by
  rw [check, os_absent]

end OverrideParts

namespace PlatformOverride

variable {o : PlatformOverride}

/-- The one fault that cannot be seen without a platform: a release tag that stands alone and belongs
to another operating system than the platform's. -/
inductive StrayTag (o : PlatformOverride) (base : Platform) : PlatformError → Prop where
  | mk {text : String} {tag : OsVersion} (os_absent : o.os = none)
      (tag_given : o.osVersion = some text) (reads : OsVersion.parse text = .ok tag)
      (different : tag.os ≠ base.os) : StrayTag o base (.mismatchedOsVersion base.os tag)

/-- Checking an override tells what putting it onto a platform comes to. -/
structure CheckPredicts (o : PlatformOverride) : Prop where
  fails_iff : ∀ (base : Platform) (fault : PlatformError),
    o.apply base = .error fault ↔
      o.validate = .error fault ∨ o.validate = .ok () ∧ o.StrayTag base fault
  succeeds_of_os_given : o.os ≠ none → o.validate = .ok () →
    ∀ base, ∃ platform, o.apply base = .ok platform

theorem strayTag_iff {parts : OverrideParts} (reads : o.ReadsAs parts) {base : Platform}
    {fault : PlatformError} :
    o.StrayTag base fault ↔ parts.os = none ∧ parts.putOn base = .error fault := by
  constructor
  · rintro ⟨os_absent, tag_given, tag_reads, different⟩
    have os_none : parts.os = none :=
      Except.ok.inj (reads.os.symm.trans (parseGiven_none_iff.mpr os_absent))
    have tag_some := Except.ok.inj
      (reads.osVersion.symm.trans (parseGiven_some_iff.mpr ⟨_, tag_given, tag_reads⟩))
    refine ⟨os_none, OverrideParts.putOn_error_iff.mpr ⟨_, tag_some, ?_⟩⟩
    rw [os_none]
    exact ⟨different, rfl⟩
  · rintro ⟨os_none, failed⟩
    obtain ⟨tag, tag_some, different, rfl⟩ := OverrideParts.putOn_error_iff.mp failed
    have os_absent := parseGiven_none_iff.mp (os_none ▸ reads.os)
    obtain ⟨text, tag_given, tag_reads⟩ := parseGiven_some_iff.mp (tag_some ▸ reads.osVersion)
    rw [os_none] at different ⊢
    exact .mk os_absent tag_given tag_reads different

theorem apply_error_iff (o : PlatformOverride) (base : Platform) (fault : PlatformError) :
    o.apply base = .error fault ↔
      o.validate = .error fault ∨ o.validate = .ok () ∧ o.StrayTag base fault := by
  rw [apply_eq_bind, validate_eq_bind]
  cases read : o.parts with
  | error first => simp [bind, Except.bind]
  | ok parts =>
      have reads := readsAs_of_parts read
      rw [strayTag_iff reads]
      simp only [bind, Except.bind]
      -- Only the platform can refuse a tag that stands alone; any other one is refused by both.
      cases os_eq : parts.os with
      | none =>
          rw [OverrideParts.check_ok_of_os_absent os_eq]
          simp
      | some os =>
          rw [OverrideParts.putOn_error_iff_check_error os_eq]
          simp

theorem check_predicts (o : PlatformOverride) : o.CheckPredicts := by
  constructor
  case fails_iff => exact o.apply_error_iff
  case succeeds_of_os_given =>
    intro os_given passes base
    cases applied : o.apply base with
    | ok platform => exact ⟨platform, rfl⟩
    | error fault =>
        rcases (o.apply_error_iff base fault).mp applied with refused | ⟨-, stray⟩
        · rw [passes] at refused
          cases refused
        · obtain ⟨os_absent, -, -, -⟩ := stray
          exact absurd os_absent os_given

/-- A tag of Windows that stands alone passes the check, and does not fit a Linux host. -/
example :
    let o : PlatformOverride := { osVersion := some "WindowsLegacy" }
    o.validate.toOption = some () ∧ (o.apply ⟨.linux, .x86, .b64, none⟩).toOption = none := by
  decide +kernel

end PlatformOverride

end ThrowawayServer
