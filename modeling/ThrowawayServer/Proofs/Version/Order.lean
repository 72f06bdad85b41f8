import Mathlib.Algebra.Group.Nat.Defs
import ThrowawayServer.Version.Range

/-!
# The order of versions

The lexicographic order on triples is the order of their ranks, whole numbers in which every
component is a digit. Statements about ranges of versions become statements about intervals.
-/

set_option autoImplicit false

namespace ThrowawayServer

namespace NumericVersion

/-- The number whose three digits are the components. -/
def rank (v : NumericVersion) : Nat :=
  (v.major.toNat * 2 ^ 32 + v.minor.toNat) * 2 ^ 32 + v.patch.toNat

variable {a b : NumericVersion}

theorem compare_uint32 (a b : UInt32) : compare a b = compare a.toNat b.toNat := by
  simp only [compare, compareOfLessAndEq, UInt32.lt_iff_toNat_lt, ← UInt32.toNat_inj]

/-- A leading digit decides, and the next one only between equals. -/
theorem compare_digits {a b c d : Nat} (c_lt : c < 2 ^ 32) (d_lt : d < 2 ^ 32) :
    (compare a b).then (compare c d) = compare (a * 2 ^ 32 + c) (b * 2 ^ 32 + d) := by
  cases leading : compare a b with
  | lt =>
      have below := Nat.compare_eq_lt.mp leading
      exact (Nat.compare_eq_lt.mpr (by omega)).symm
  | gt =>
      have above := Nat.compare_eq_gt.mp leading
      exact (Nat.compare_eq_gt.mpr (by omega)).symm
  | eq =>
      cases Nat.compare_eq_eq.mp leading
      cases last : compare c d with
      | lt =>
          have below := Nat.compare_eq_lt.mp last
          exact (Nat.compare_eq_lt.mpr (by omega)).symm
      | gt =>
          have above := Nat.compare_eq_gt.mp last
          exact (Nat.compare_eq_gt.mpr (by omega)).symm
      | eq =>
          have same := Nat.compare_eq_eq.mp last
          exact (Nat.compare_eq_eq.mpr (by omega)).symm

theorem compare_eq_compare_rank (a b : NumericVersion) :
    a.compare b = compare a.rank b.rank := by
  have minors := compare_digits (a := a.major.toNat) (b := b.major.toNat) a.minor.toNat_lt
    b.minor.toNat_lt
  rw [NumericVersion.compare, compare_uint32, compare_uint32, compare_uint32,
    ← Ordering.then_assoc, minors, compare_digits a.patch.toNat_lt b.patch.toNat_lt, rank, rank]

/-- Whole numbers with the same digits are the same. -/
theorem rank_inj : a.rank = b.rank ↔ a = b := by
  constructor
  · intro same
    have minor_lt := a.minor.toNat_lt
    have minor_lt' := b.minor.toNat_lt
    have patch_lt := a.patch.toNat_lt
    have patch_lt' := b.patch.toNat_lt
    simp only [rank] at same
    have major : a.major = b.major := UInt32.toNat_inj.mp (by omega)
    have minor : a.minor = b.minor := UInt32.toNat_inj.mp (by omega)
    have patch : a.patch = b.patch := UInt32.toNat_inj.mp (by omega)
    cases a
    cases b
    rw [NumericVersion.mk.injEq]
    exact ⟨major, minor, patch⟩
  · rintro rfl
    rfl

theorem newerOrEqual_iff : a.newerOrEqual b = true ↔ b.rank ≤ a.rank := by
  rw [newerOrEqual, compare_eq_compare_rank, Nat.isGE_compare]

theorem olderOrEqual_iff : a.olderOrEqual b = true ↔ a.rank ≤ b.rank := by
  rw [olderOrEqual, compare_eq_compare_rank, Nat.isLE_compare]

theorem olderThan_iff : a.olderThan b = true ↔ a.rank < b.rank := by
  rw [olderThan, compare_eq_compare_rank, Ordering.isLT_iff_eq_lt, Nat.compare_eq_lt]

end NumericVersion

namespace VersionRange

variable {range other : VersionRange} {v : NumericVersion}

theorem contains_iff :
    range.contains v = true ↔ range.min.rank ≤ v.rank ∧ v.rank ≤ range.max.rank := by
  rw [contains, Bool.and_eq_true, NumericVersion.newerOrEqual_iff, NumericVersion.olderOrEqual_iff]

/-- No version lies in both ranges. -/
def Apart (range other : VersionRange) : Prop :=
  range.max.olderThan other.min = true ∨ other.max.olderThan range.min = true

instance (range other : VersionRange) : Decidable (range.Apart other) :=
  inferInstanceAs (Decidable (_ ∨ _))

theorem Apart.not_both (apart : range.Apart other) (inside : range.contains v = true) :
    ¬ other.contains v = true := by
  intro insideOther
  rw [contains_iff] at inside insideOther
  rw [Apart, NumericVersion.olderThan_iff, NumericVersion.olderThan_iff] at apart
  omega

end VersionRange

end ThrowawayServer
