import Mathlib.Data.List.Perm.Subperm
import Mathlib.Data.List.Sort
import Mathlib.Tactic.Choose
import ThrowawayServer.Proofs.Version.PatchRuns

/-!
# The fewest ranges

A run ends where the next patch is missing. A range that reaches from one run into another would hold
that patch, so that ranges which hold the same releases, each within one minor version, are no fewer
than the runs. Sorting forgets the order of a list and its repeats, so that the runs belong to the set
of releases and not to the list.
-/

set_option autoImplicit false

namespace ThrowawayServer

/-- All versions in the range have the same major and minor. -/
def VersionRange.WithinMinor (range : VersionRange) : Prop :=
  ∀ v w, range.contains v = true → range.contains w = true →
    v.major = w.major ∧ v.minor = w.minor

/-- Ranges within one minor version each that together hold exactly some versions. -/
structure ExactCover (versions : List NumericVersion) (ranges : List VersionRange) : Prop where
  within : ∀ range ∈ ranges, range.WithinMinor
  holds_iff : ∀ v, (∃ range ∈ ranges, range.contains v = true) ↔ v ∈ versions

/-- A range whose ends have the same major and minor is within one minor version. -/
theorem VersionRange.withinMinor_of_ends {range : VersionRange}
    (major : range.min.major = range.max.major) (minor : range.min.minor = range.max.minor) :
    range.WithinMinor := by
  -- Between two ranks with the same leading digits every rank has these digits.
  have leading : ∀ v, range.contains v = true →
      v.major = range.max.major ∧ v.minor = range.max.minor := by
    intro v inside
    have minor_lt := v.minor.toNat_lt
    have minor_lt' := range.max.minor.toNat_lt
    have patch_lt := v.patch.toNat_lt
    have patch_lt' := range.max.patch.toNat_lt
    simp only [VersionRange.contains_iff, NumericVersion.rank, major, minor] at inside
    exact ⟨UInt32.toNat_inj.mp (by omega), UInt32.toNat_inj.mp (by omega)⟩
  intro v w first second
  obtain ⟨major, minor⟩ := leading v first
  obtain ⟨major', minor'⟩ := leading w second
  exact ⟨major.trans major'.symm, minor.trans minor'.symm⟩

namespace RunsOf

variable {v : NumericVersion} {versions : List NumericVersion} {runs : List VersionRange}

theorem lt_max (covered : RunsOf versions runs) (below : ∀ w ∈ versions, v.rank < w.rank) :
    ∀ run ∈ runs, v.rank < run.max.rank := by
  intro run member
  have before := below run.min (covered.min_mem run member)
  have ordered := (covered.isPatchRun run member).rank_le
  omega

theorem min_le (covered : RunsOf versions runs) {first : VersionRange}
    (head : first ∈ runs.head?) : ∀ w ∈ versions, first.min.rank ≤ w.rank := by
  cases runs with
  | nil => cases head
  | cons run runs =>
      cases head
      intro w member
      obtain ⟨holder, listed, holds⟩ := List.any_eq_true.mp ((covered.any_contains_iff w).mpr member)
      have inside := VersionRange.contains_iff.mp holds
      rcases List.mem_cons.mp listed with rfl | listed
      · exact inside.1
      · have before := (List.pairwise_cons.mp covered.ascending).1 holder listed
        rw [NumericVersion.olderThan_iff] at before
        have ordered := (covered.isPatchRun _ List.mem_cons_self).rank_le
        omega

/-- The patch after the end of a run is not among the releases. -/
theorem ends (covered : RunsOf versions runs) :
    ∀ run ∈ runs, ∀ w ∈ versions, run.max.rank < w.rank → run.max.isAdjacentPatch w = false := by
  induction covered with
  | nil => exact fun run member => nomatch member
  | @extended v versions first runs later below adjacent ih =>
      intro run member w listed after
      have same_end : ∃ old ∈ first :: runs, old.max = run.max := by
        rcases List.mem_cons.mp member with rfl | member
        · exact ⟨first, List.mem_cons_self, rfl⟩
        · exact ⟨run, List.mem_cons_of_mem _ member, rfl⟩
      obtain ⟨old, oldMember, same⟩ := same_end
      rw [← same] at after ⊢
      rcases List.mem_cons.mp listed with rfl | listed
      · exact absurd (later.lt_max below old oldMember) (Nat.lt_asymm after)
      · exact ih old oldMember w listed after
  | @begun v versions runs later below apart ih =>
      intro run member w listed after
      rcases List.mem_cons.mp member with rfl | runMember
      · rcases List.mem_cons.mp listed with rfl | listed
        · exact absurd after (Nat.lt_irrefl _)
        · rw [Bool.eq_false_iff]
          intro adjacent
          -- The release after the single one is the least that is left, so a later run begins with it.
          have next : w.rank = v.rank + 1 :=
            NumericVersion.rank_of_isAdjacentPatch after adjacent
          obtain ⟨holder, held, -⟩ := List.any_eq_true.mp ((later.any_contains_iff w).mpr listed)
          obtain ⟨first, rest, rfl⟩ := List.exists_cons_of_ne_nil (List.ne_nil_of_mem held)
          have low := later.min_le (Option.mem_some_self first) w listed
          have high := below first.min (later.min_mem first List.mem_cons_self)
          have same : first.min = w := NumericVersion.rank_inj.mp (by omega)
          have unjoined := apart first (Option.mem_some_self first)
          rw [same] at unjoined
          exact Bool.false_ne_true (unjoined.symm.trans adjacent)
      · rcases List.mem_cons.mp listed with rfl | listed
        · exact absurd (later.lt_max below run runMember) (Nat.lt_asymm after)
        · exact ih run runMember w listed after

/-- A range within one minor version that holds releases alone does not reach into two runs. -/
theorem not_both_held (covered : RunsOf versions runs) :
    runs.Pairwise fun earlier later => ∀ range : VersionRange, range.WithinMinor →
      (∀ v, range.contains v = true → v ∈ versions) → range.contains earlier.min = true →
        ¬ range.contains later.min = true := by
  refine covered.ascending.imp_of_mem fun {earlier later} member _ before range within inside
    first second => ?_
  have run := covered.isPatchRun earlier member
  obtain ⟨major, minor⟩ := within _ _ first second
  rw [run.major] at major
  rw [run.minor] at minor
  have ordered := run.rank_le
  have before := NumericVersion.olderThan_iff.mp before
  have gap : earlier.max.patch.toNat < later.min.patch.toNat := by
    simp only [NumericVersion.rank, major, minor] at before
    omega
  have small := later.min.patch.toNat_lt
  let next : NumericVersion := { later.min with patch := earlier.max.patch + 1 }
  have patch : next.patch.toNat = earlier.max.patch.toNat + 1 := by
    rw [UInt32.toNat_add, UInt32.toNat_one, Nat.mod_eq_of_lt (by omega)]
  have after : earlier.max.rank < next.rank := by
    simp only [NumericVersion.rank, major, minor, patch, next]
    omega
  have upto : next.rank ≤ later.min.rank := by
    simp only [NumericVersion.rank, patch, next]
    omega
  have held : range.contains next = true := by
    rw [VersionRange.contains_iff] at first second ⊢
    omega
  have missing := covered.ends earlier member next (inside next held) after
  have adjacent := (NumericVersion.isAdjacentPatch_iff_of_rank_lt after).mpr
    ⟨major, minor, patch.symm⟩
  exact Bool.false_ne_true (missing.symm.trans adjacent)

theorem exactCover (covered : RunsOf versions runs) : ExactCover versions runs := by
  constructor
  case within =>
    intro run member
    obtain ⟨major, minor, _⟩ := covered.isPatchRun run member
    exact VersionRange.withinMinor_of_ends major minor
  case holds_iff =>
    intro v
    rw [← covered.any_contains_iff, List.any_eq_true]

theorem length_le (covered : RunsOf versions runs) {ranges : List VersionRange}
    (cover : ExactCover versions ranges) : runs.length ≤ ranges.length := by
  have held : ∀ run ∈ runs, ∃ range ∈ ranges, range.contains run.min = true :=
    fun run member => (cover.holds_iff run.min).mpr (covered.min_mem run member)
  have : Nonempty VersionRange := ⟨.single .latest⟩
  -- Each run goes to a range that holds its first release, and no two go to the same one.
  choose! holder listed holds using held
  have distinct : (runs.map holder).Nodup := by
    rw [List.Nodup, List.pairwise_map]
    refine covered.not_both_held.imp_of_mem fun {earlier later} member member' apart same => ?_
    have range := listed earlier member
    refine apart (holder earlier) (cover.within _ range) (fun v inside => ?_)
      (holds earlier member) (same ▸ holds later member')
    exact (cover.holds_iff v).mp ⟨_, range, inside⟩
  have within : runs.map holder ⊆ ranges := by
    intro range member
    obtain ⟨run, runMember, rfl⟩ := List.mem_map.mp member
    exact listed run runMember
  calc
    runs.length = (runs.map holder).length := (List.length_map holder).symm
    _ ≤ ranges.length := (List.Nodup.subperm distinct within).length_le

end RunsOf

/-- Ascending lists with the same members are the same. -/
theorem Ascending.eq_of_mem_iff {left right : List NumericVersion} (first : Ascending left)
    (second : Ascending right) (same : ∀ v, v ∈ left ↔ v ∈ right) : left = right := by
  have : Std.Irrefl fun a b : NumericVersion => a.rank < b.rank := ⟨fun a => Nat.lt_irrefl a.rank⟩
  have : Std.Antisymm fun a b : NumericVersion => a.rank < b.rank :=
    ⟨fun _ _ before after => absurd (Nat.lt_trans before after) (Nat.lt_irrefl _)⟩
  exact List.Pairwise.eq_of_mem_iff first second same

theorem compressRanges_congr {versions others : List NumericVersion}
    (same : ∀ v, v ∈ others ↔ v ∈ versions) : compressRanges others = compressRanges versions := by
  have sorted (list : List NumericVersion) :
      Ascending (dropRepeats (list.mergeSort NumericVersion.olderOrEqual)) :=
    ascending_dropRepeats (List.pairwise_mergeSort NumericVersion.olderOrEqual_trans
      NumericVersion.olderOrEqual_total list)
  refine congrArg patchRuns ((sorted others).eq_of_mem_iff (sorted versions) fun v => ?_)
  rw [mem_dropRepeats, mem_dropRepeats, List.mem_mergeSort, List.mem_mergeSort]
  exact same v

/-- No ranges do with less, and the ranges follow from the set of releases alone. -/
structure CanonicalRanges (versions : List NumericVersion) (ranges : List VersionRange) : Prop where
  cover : ExactCover versions ranges
  fewest : ∀ others, ExactCover versions others → ranges.length ≤ others.length
  of_same_set : ∀ others, (∀ v, v ∈ others ↔ v ∈ versions) → compressRanges others = ranges
  of_contained : ∀ contained,
    (∀ v, v ∈ contained ↔ ∃ range ∈ ranges, range.contains v = true) →
      compressRanges contained = ranges

theorem compressRanges_canonical (versions : List NumericVersion) :
    CanonicalRanges versions (compressRanges versions) := by
  obtain ⟨listed, -, listed_iff, covered⟩ := runsOf_compressRanges versions
  have of_listed {ranges : List VersionRange} (cover : ExactCover listed ranges) :
      ExactCover versions ranges :=
    ⟨cover.within, fun v => (cover.holds_iff v).trans (listed_iff v)⟩
  have to_listed {ranges : List VersionRange} (cover : ExactCover versions ranges) :
      ExactCover listed ranges :=
    ⟨cover.within, fun v => (cover.holds_iff v).trans (listed_iff v).symm⟩
  have cover := of_listed covered.exactCover
  constructor
  case cover => exact cover
  case fewest => exact fun others other => covered.length_le (to_listed other)
  case of_same_set => exact fun others same => compressRanges_congr same
  case of_contained =>
    exact fun contained same => compressRanges_congr fun v => (same v).trans (cover.holds_iff v)

end ThrowawayServer
