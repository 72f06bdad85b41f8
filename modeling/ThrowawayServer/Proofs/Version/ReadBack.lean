import Mathlib.Data.List.Basic
import ThrowawayServer.CommandLine.Session
import ThrowawayServer.Proofs.Version.Grammar

/-!
# Reading back what is printed

The canonical text of a version is read as that version, so that versions with one canonical text are
the same. A triple is printed as a version that has it, and the ends of a printed range can be cut out
of its line in one way only.
-/

set_option autoImplicit false

namespace ThrowawayServer

/-!
## Canonical texts
-/

namespace Version

variable {input : String} {version : Version}

theorem parse_canonical (parsed : parse input = .ok version) :
    parse version.canonical = .ok version := by
  have read := parse_eq_iff.mp parsed
  have trimmed := Text.trimBy_trimBy Text.isBlank input.toList
  rw [← Text.trim, ← Text.trim] at trimmed
  generalize Text.trim input.toList = text at read trimmed
  rw [parse_eq_iff]
  cases read with
  | latest word => exact .latest (by decide)
  | numbered numbered =>
      dsimp only
      rw [String.toList_ofList, trimmed]
      exact .numbered numbered

/-- The canonical text stands for the version: it is read as the version and as no other. -/
structure IdentifiedByText (version : Version) : Prop where
  parsed_again : parse version.canonical = .ok version
  read_again : ofJson version.toJson = .ok version
  eq_iff : ∀ text other, parse text = .ok other →
    (version = other ↔ version.canonical = other.canonical)

theorem parsed_identifiedByText (parsed : parse input = .ok version) : IdentifiedByText version := by
  have again := parse_canonical parsed
  constructor
  case parsed_again => exact again
  case read_again => rw [toJson, ofJson, again, Except.mapError]
  case eq_iff =>
    intro text other otherParsed
    constructor
    · exact congrArg canonical
    · intro same
      have otherAgain := parse_canonical otherParsed
      rw [← same, again] at otherAgain
      exact Except.ok.inj otherAgain

/-- The rolling build, whose triple can be spelled out by another version. -/
theorem parsed_identifiedByText_of_latest :
    parse "\u3000LaTeSt\n" = .ok .latest ∧
      parse "4294967295.4294967295.4294967295" =
        .ok ⟨"4294967295.4294967295.4294967295", .latest⟩ ∧ IdentifiedByText .latest := by
  have parsed : parse "\u3000LaTeSt\n" = .ok .latest := by decide +kernel
  exact ⟨parsed, by decide +kernel, parsed_identifiedByText parsed⟩

end Version

/-!
## Triples
-/

namespace NumericVersion

variable {v : NumericVersion}

theorem toList_toText (numbered : v ≠ latest) :
    v.toText.toList = v.major.toNat.repr.toList ++
      '.' :: (v.minor.toNat.repr.toList ++ '.' :: v.patch.toNat.repr.toList) := by
  rw [toText, if_neg numbered]
  simp only [String.toList_append, List.append_assoc]
  rfl

theorem core_toText (numbered : v ≠ latest) : Version.Core v.toText.toList v := by
  rw [toList_toText numbered]
  exact .triple (.repr _) (.repr _) (.repr _)

theorem parse_toText (v : NumericVersion) : Version.parse v.toText = .ok ⟨v.toText, v⟩ := by
  by_cases rolling : v = latest
  · subst rolling
    rfl
  · have core := core_toText rolling
    have unblank := core.not_blank
    have trimmed : Text.trim v.toText.toList = v.toText.toList :=
      Text.trimBy_of_ends (fun c first => unblank c (List.mem_of_head? first))
        (fun c last => unblank c (List.mem_of_getLast? last))
    rw [Version.parse_eq_iff, trimmed]
    have read := Version.ReadAs.numbered (.plain core)
    rwa [String.ofList_toList] at read

theorem toText_injective : Function.Injective toText := by
  intro v w same
  have read := parse_toText v
  rw [same, parse_toText w] at read
  exact (Version.mk.inj (Except.ok.inj read)).2.symm

theorem equals_not_mem_toText (v : NumericVersion) : '=' ∉ v.toText.toList := by
  by_cases rolling : v = latest
  · subst rolling
    decide
  · exact (core_toText rolling).not_mem rfl (by decide) (by decide)

end NumericVersion

/-!
## Printed ranges
-/

/-- The texts of both ends in a line: what stands around `..=`, or the whole line. -/
inductive EndTexts : String → String → String → Prop where
  | one {line : String} (uncut : '=' ∉ line.toList) : EndTexts line line line
  | two {low high : String} : EndTexts (low ++ "..=" ++ high) low high

namespace EndTexts

variable {line low high first last : String}

theorem of_uncut (uncut : '=' ∉ line.toList) (texts : EndTexts line first last) :
    first = line ∧ last = line := by
  cases texts with
  | one => exact ⟨rfl, rfl⟩
  | two =>
      rw [String.toList_append, String.toList_append] at uncut
      exact absurd (List.mem_append_left _ (List.mem_append_right _ (by decide))) uncut

/-- Texts without an equals sign are cut apart at the only one there is. -/
theorem of_cut (lowPlain : '=' ∉ low.toList) (highPlain : '=' ∉ high.toList)
    (texts : EndTexts (low ++ "..=" ++ high) first last) : first = low ∧ last = high := by
  have toList_line (left right : String) : (left ++ "..=" ++ right).toList =
      (left.toList ++ ['.', '.']) ++ '=' :: right.toList := by
    rw [String.toList_append, String.toList_append, List.append_assoc, List.append_assoc]
    rfl
  generalize cut : low ++ "..=" ++ high = line at texts
  cases texts with
  | one uncut =>
      rw [← cut, toList_line] at uncut
      exact absurd (List.mem_append_right _ List.mem_cons_self) uncut
  | two =>
      have same := congrArg String.toList cut
      have lowDots : '=' ∉ low.toList ++ ['.', '.'] := by simpa using lowPlain
      rw [toList_line, toList_line, List.append_cons_inj_of_notMem lowDots highPlain] at same
      obtain ⟨starts, -, rest⟩ := same
      exact ⟨String.toList_inj.mp (List.append_cancel_right starts).symm,
        String.toList_inj.mp rest.symm⟩

end EndTexts

namespace VersionRange

/-- The line names the ends of the range, however its texts are taken apart. -/
structure ReadBackFrom (range : VersionRange) (line : String) : Prop where
  cut : ∃ low high, EndTexts line low high
  ends : ∀ low high, EndTexts line low high →
    Version.parse low = .ok ⟨low, range.min⟩ ∧ Version.parse high = .ok ⟨high, range.max⟩

theorem readBackFrom_toText (range : VersionRange) : range.ReadBackFrom range.toText := by
  obtain ⟨min, max⟩ := range
  rw [toText]
  dsimp only
  split
  · next same =>
    subst same
    have uncut := min.equals_not_mem_toText
    constructor
    case cut => exact ⟨_, _, .one uncut⟩
    case ends =>
      intro low high texts
      obtain ⟨rfl, rfl⟩ := texts.of_uncut uncut
      exact ⟨min.parse_toText, min.parse_toText⟩
  · next differ =>
    constructor
    case cut => exact ⟨_, _, .two⟩
    case ends =>
      intro low high texts
      obtain ⟨rfl, rfl⟩ := texts.of_cut min.equals_not_mem_toText max.equals_not_mem_toText
      exact ⟨min.parse_toText, max.parse_toText⟩

end VersionRange

/-- Every triple and every end of a printed range can be read back from what is printed. -/
structure PrintedIsReadBack : Prop where
  parse_toText : ∀ v : NumericVersion, Version.parse v.toText = .ok ⟨v.toText, v⟩
  toText_injective : Function.Injective NumericVersion.toText
  range_lines : ∀ surroundings versions, ∃ lines,
    CommandRequest.answer surroundings (.ranges versions) = .ok (.lines lines) ∧
      List.Forall₂ VersionRange.ReadBackFrom (compressRanges (versions.map (·.numeric))) lines

theorem printed_isReadBack : PrintedIsReadBack := by
  constructor
  case parse_toText => exact NumericVersion.parse_toText
  case toText_injective => exact NumericVersion.toText_injective
  case range_lines =>
    intro surroundings versions
    refine ⟨_, rfl, ?_⟩
    rw [rangeLines, List.forall₂_map_right_iff, List.forall₂_same]
    exact fun range _ => range.readBackFrom_toText

end ThrowawayServer
