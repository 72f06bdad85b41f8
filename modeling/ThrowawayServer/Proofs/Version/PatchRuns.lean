import ThrowawayServer.Proofs.Version.Order

/-!
# Runs of adjacent patches

Sorting a list of releases and dropping repeats leaves a strictly ascending list, and squeezing such a
list into runs neither loses nor invents a release: in the order of ranks, adjacent patches are whole
numbers that follow each other.
-/

set_option autoImplicit false

namespace ThrowawayServer

namespace NumericVersion

variable {v w : NumericVersion}

theorem olderOrEqual_trans (a b c : NumericVersion) (first : a.olderOrEqual b = true)
    (second : b.olderOrEqual c = true) : a.olderOrEqual c = true := by
  rw [olderOrEqual_iff] at first second ⊢
  exact Nat.le_trans first second

theorem olderOrEqual_total (a b : NumericVersion) :
    (a.olderOrEqual b || b.olderOrEqual a) = true := by
  rw [Bool.or_eq_true, olderOrEqual_iff, olderOrEqual_iff]
  exact Nat.le_total a.rank b.rank

/-- Of two adjacent patches the later one follows the earlier one at once. -/
theorem isAdjacentPatch_iff_of_rank_lt (earlier : v.rank < w.rank) :
    v.isAdjacentPatch w = true ↔
      v.major = w.major ∧ v.minor = w.minor ∧ v.patch.toNat + 1 = w.patch.toNat := by
  simp only [isAdjacentPatch, Bool.and_eq_true, Bool.or_eq_true, decide_eq_true_eq, and_assoc]
  constructor
  · rintro ⟨major, minor, patch | patch⟩
    · exact ⟨major, minor, patch⟩
    -- Patches are adjacent in either order, and here the second one would come first.
    · simp only [rank, major, minor] at earlier
      omega
  · rintro ⟨major, minor, patch⟩
    exact ⟨major, minor, .inl patch⟩

theorem rank_of_isAdjacentPatch (earlier : v.rank < w.rank)
    (adjacent : v.isAdjacentPatch w = true) : w.rank = v.rank + 1 := by
  obtain ⟨major, minor, patch⟩ := (isAdjacentPatch_iff_of_rank_lt earlier).mp adjacent
  simp only [rank, ← major, ← minor]
  omega

end NumericVersion

/-!
## Ascending lists
-/

/-- Every release stands before all later ones of the list. -/
def Ascending (versions : List NumericVersion) : Prop :=
  versions.Pairwise fun earlier later => earlier.rank < later.rank

section DropRepeats

variable {v : NumericVersion} {versions : List NumericVersion}

theorem mem_dropRepeats : v ∈ dropRepeats versions ↔ v ∈ versions := by
  fun_induction dropRepeats versions with
  | case1 => rfl
  | case2 => rfl
  | case3 first rest ih => rw [ih, List.mem_cons (l := first :: rest), List.mem_cons, or_self_left]
  | case4 first second rest different ih => rw [List.mem_cons, ih, ← List.mem_cons]

theorem ascending_dropRepeats
    (sorted : versions.Pairwise fun earlier later => earlier.olderOrEqual later = true) :
    Ascending (dropRepeats versions) := by
  unfold Ascending
  fun_induction dropRepeats versions with
  | case1 => exact .nil
  | case2 v => exact List.pairwise_singleton _ v
  | case3 first rest ih => exact ih sorted.tail
  | case4 first second rest different ih =>
      rw [List.pairwise_cons] at sorted ⊢
      refine ⟨fun later member => ?_, ih sorted.2⟩
      -- Sorting allows equal neighbours, so that only `different` makes the first step a strict one.
      have rest_sorted := List.pairwise_cons.mp sorted.2
      have first_le := NumericVersion.olderOrEqual_iff.mp (sorted.1 second List.mem_cons_self)
      have first_ne : first.rank ≠ second.rank :=
        fun same => different (NumericVersion.rank_inj.mp same)
      rcases List.mem_cons.mp (mem_dropRepeats.mp member) with rfl | later_member
      · omega
      · have second_le := NumericVersion.olderOrEqual_iff.mp (rest_sorted.1 later later_member)
        omega

end DropRepeats

/-!
## Runs
-/

/-- A range whose ends differ in the patch at most. -/
structure VersionRange.IsPatchRun (range : VersionRange) : Prop where
  major : range.min.major = range.max.major
  minor : range.min.minor = range.max.minor
  patch : range.min.patch ≤ range.max.patch

theorem VersionRange.IsPatchRun.rank_le {range : VersionRange} (run : range.IsPatchRun) :
    range.min.rank ≤ range.max.rank := by
  have patch := UInt32.le_iff_toNat_le.mp run.patch
  simp only [NumericVersion.rank, run.major, run.minor]
  omega

/-- A release before a range is put in front of its first range, or begins a range of its own. -/
inductive RunsOf : List NumericVersion → List VersionRange → Prop where
  | nil : RunsOf [] []
  | extended {v : NumericVersion} {versions : List NumericVersion} {run : VersionRange}
      {runs : List VersionRange} (later : RunsOf versions (run :: runs))
      (below : ∀ w ∈ versions, v.rank < w.rank) (adjacent : v.isAdjacentPatch run.min = true) :
      RunsOf (v :: versions) (⟨v, run.max⟩ :: runs)
  | begun {v : NumericVersion} {versions : List NumericVersion} {runs : List VersionRange}
      (later : RunsOf versions runs) (below : ∀ w ∈ versions, v.rank < w.rank)
      (apart : ∀ run ∈ runs.head?, v.isAdjacentPatch run.min = false) :
      RunsOf (v :: versions) (.single v :: runs)

theorem runsOf_patchRuns {versions : List NumericVersion} (ascending : Ascending versions) :
    RunsOf versions (patchRuns versions) := by
  -- The later releases are squeezed first; the new one can only touch the first of their ranges.
  induction versions with
  | nil => exact .nil
  | cons v versions ih =>
      obtain ⟨below, rest_ascending⟩ := List.pairwise_cons.mp ascending
      have later := ih rest_ascending
      rw [patchRuns]
      cases runs_eq : patchRuns versions with
      | nil =>
          rw [runs_eq] at later
          exact .begun later below (fun run member => nomatch member)
      | cons run runs =>
          rw [runs_eq] at later
          cases adjacent : v.isAdjacentPatch run.min with
          | true =>
              dsimp only
              rw [if_pos adjacent]
              exact .extended later below adjacent
          | false =>
              dsimp only
              rw [if_neg (Bool.eq_false_iff.mp adjacent)]
              refine .begun later below fun first member => ?_
              cases member
              exact adjacent

namespace RunsOf

variable {v : NumericVersion} {versions : List NumericVersion} {runs : List VersionRange}

theorem min_mem (covered : RunsOf versions runs) : ∀ run ∈ runs, run.min ∈ versions := by
  induction covered with
  | nil => exact fun run member => nomatch member
  | extended later below adjacent ih =>
      intro run member
      rcases List.mem_cons.mp member with rfl | member
      · exact List.mem_cons_self
      · exact List.mem_cons_of_mem _ (ih run (List.mem_cons_of_mem _ member))
  | begun later below apart ih =>
      intro run member
      rcases List.mem_cons.mp member with rfl | member
      · exact List.mem_cons_self
      · exact List.mem_cons_of_mem _ (ih run member)

theorem isPatchRun (covered : RunsOf versions runs) : ∀ run ∈ runs, run.IsPatchRun := by
  induction covered with
  | nil => exact fun run member => nomatch member
  | @extended v versions first runs later below adjacent ih =>
      intro run member
      rcases List.mem_cons.mp member with rfl | member
      · have first_run := ih first List.mem_cons_self
        have first_le := UInt32.le_iff_toNat_le.mp first_run.patch
        have earlier := below first.min (later.min_mem first List.mem_cons_self)
        obtain ⟨major, minor, patch⟩ :=
          (NumericVersion.isAdjacentPatch_iff_of_rank_lt earlier).mp adjacent
        refine ⟨major.trans first_run.major, minor.trans first_run.minor, ?_⟩
        rw [UInt32.le_iff_toNat_le]
        dsimp only
        omega
      · exact ih run (List.mem_cons_of_mem _ member)
  | begun later below apart ih =>
      intro run member
      rcases List.mem_cons.mp member with rfl | member
      · exact ⟨rfl, rfl, UInt32.le_refl _⟩
      · exact ih run member

theorem ascending (covered : RunsOf versions runs) :
    runs.Pairwise fun earlier later => earlier.max.olderThan later.min = true := by
  induction covered with
  | nil => exact .nil
  | extended later below adjacent ih =>
      rw [List.pairwise_cons] at ih ⊢
      exact ih
  | begun later below apart ih =>
      refine List.pairwise_cons.mpr ⟨fun run member => ?_, ih⟩
      exact NumericVersion.olderThan_iff.mpr (below run.min (later.min_mem run member))

/-- The number before a range extends it by itself and nothing else. -/
theorem contains_extended {run : VersionRange} (isRun : run.IsPatchRun)
    (earlier : v.rank < run.min.rank) (adjacent : v.isAdjacentPatch run.min = true)
    (w : NumericVersion) :
    (VersionRange.mk v run.max).contains w = true ↔ w = v ∨ run.contains w = true := by
  have follows := NumericVersion.rank_of_isAdjacentPatch earlier adjacent
  have run_le := isRun.rank_le
  rw [VersionRange.contains_iff, VersionRange.contains_iff, ← NumericVersion.rank_inj]
  dsimp only
  omega

theorem contains_single (v w : NumericVersion) :
    (VersionRange.single v).contains w = true ↔ w = v := by
  rw [VersionRange.contains_iff, ← NumericVersion.rank_inj, VersionRange.single]
  dsimp only
  omega

theorem any_contains_iff (covered : RunsOf versions runs) (w : NumericVersion) :
    (runs.any fun run => run.contains w) = true ↔ w ∈ versions := by
  induction covered with
  | nil => simp
  | @extended v versions run runs later below adjacent ih =>
      have isRun := later.isPatchRun run List.mem_cons_self
      have earlier := below run.min (later.min_mem run List.mem_cons_self)
      rw [List.any_cons, Bool.or_eq_true] at ih ⊢
      rw [contains_extended isRun earlier adjacent, or_assoc, ih, List.mem_cons]
  | begun later below apart ih =>
      rw [List.any_cons, Bool.or_eq_true, contains_single, ih, List.mem_cons]

end RunsOf

theorem runsOf_compressRanges (versions : List NumericVersion) :
    ∃ ascending, Ascending ascending ∧ (∀ v, v ∈ ascending ↔ v ∈ versions) ∧
      RunsOf ascending (compressRanges versions) := by
  have sorted := List.pairwise_mergeSort NumericVersion.olderOrEqual_trans
    NumericVersion.olderOrEqual_total versions
  have ascending := ascending_dropRepeats sorted
  refine ⟨_, ascending, fun v => ?_, runsOf_patchRuns ascending⟩
  rw [mem_dropRepeats, List.mem_mergeSort]

end ThrowawayServer
