import ThrowawayServer.Proofs.Catalog.Chains
import ThrowawayServer.Proofs.Version.PatchRuns

/-!
# Releases as a predicate

A list of releases and the ranges it is squeezed into are the same predicate on distributions. The
ranges are runs of patches in ascending order, so that a release lies in one of them at most.
-/

set_option autoImplicit false

namespace ThrowawayServer

theorem Match.anyHolds_versions (d : Distribution) (ranges : List VersionRange) :
    Match.anyHolds d (ranges.map .version) =
      ranges.any fun range => range.contains d.version.numeric := by
  rw [Match.anyHolds_eq_any, List.any_map]
  rfl

/-- The ranges hold the releases of a list and nothing else, each release once. -/
structure ExactRanges (versions : List NumericVersion) (ranges : List VersionRange) : Prop where
  matched : ∀ d : Distribution,
    (Match.versions ranges).holds d = true ↔ d.version.numeric ∈ versions
  patch_runs : ∀ range ∈ ranges, range.IsPatchRun
  ascending : ranges.Pairwise fun earlier later => earlier.max.olderThan later.min = true
  disjoint : ranges.Pairwise fun range other =>
    ∀ v, ¬ (range.contains v = true ∧ other.contains v = true)

theorem compressRanges_exact (versions : List NumericVersion) :
    ExactRanges versions (compressRanges versions) := by
  obtain ⟨listed, -, listed_iff, covered⟩ := runsOf_compressRanges versions
  constructor
  case matched =>
    intro d
    rw [Match.versions, Match.holds, Match.anyHolds_versions, covered.any_contains_iff, listed_iff]
  case patch_runs => exact covered.isPatchRun
  case ascending => exact covered.ascending
  case disjoint =>
    refine covered.ascending.imp fun before v both => ?_
    exact VersionRange.Apart.not_both (.inl before) both.1 both.2

/-- The greatest patch is followed by none, and the rolling build is a range of its own. -/
example :
    compressRanges [.latest, ⟨4, 0, 2⟩, ⟨4, 0, 0xFFFFFFFF⟩, ⟨4, 1, 0⟩, ⟨4, 0, 1⟩, ⟨4, 0, 2⟩] =
      [⟨⟨4, 0, 1⟩, ⟨4, 0, 2⟩⟩, ⟨⟨4, 0, 0xFFFFFFFF⟩, ⟨4, 0, 0xFFFFFFFF⟩⟩,
        ⟨⟨4, 1, 0⟩, ⟨4, 1, 0⟩⟩, .single .latest] := by
  cbv

end ThrowawayServer
