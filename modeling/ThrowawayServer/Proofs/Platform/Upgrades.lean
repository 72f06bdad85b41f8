import Mathlib.Data.Prod.Lex
import ThrowawayServer.Proofs.Platform.LastLines
import ThrowawayServer.Proofs.Text.Numeral

/-!
# Upgrades keep their release tags

The releases of a distribution come one after the other, and a host has the tag of the newest one
that its own release has reached. So a host that is upgraded never loses its tag: it keeps it or
gets the tag of a later release of the same distribution.
-/

set_option autoImplicit false

namespace ThrowawayServer

/-- A distribution with release tags of its own. -/
inductive Distro where
  | ubuntu
  | debian
  | redHat
  deriving DecidableEq, Repr

/-- Major and minor in the order of releases. -/
abbrev ReleaseNumber := Lex (Nat × Nat)

def releaseNumber (major minor : Nat) : ReleaseNumber := toLex (major, minor)

/-- A release and the tag that hosts have from it on. -/
abbrev OsRelease.Milestone := ReleaseNumber × OsVersion

namespace OsVersion

/-- The distribution and the release that a tag stands for, if it is one of these distributions. -/
def edition? : OsVersion → Option (Distro × ReleaseNumber)
  | .ubuntu1404 => some (.ubuntu, releaseNumber 14 4)
  | .ubuntu1604 => some (.ubuntu, releaseNumber 16 4)
  | .ubuntu1804 => some (.ubuntu, releaseNumber 18 4)
  | .ubuntu2004 => some (.ubuntu, releaseNumber 20 4)
  | .ubuntu2204 => some (.ubuntu, releaseNumber 22 4)
  | .debian7 => some (.debian, releaseNumber 7 0)
  | .debian8 => some (.debian, releaseNumber 8 0)
  | .debian9 => some (.debian, releaseNumber 9 0)
  | .debian10 => some (.debian, releaseNumber 10 0)
  | .debian11 => some (.debian, releaseNumber 11 0)
  | .debian12 => some (.debian, releaseNumber 12 0)
  | .rhel6 => some (.redHat, releaseNumber 6 0)
  | .rhel7 => some (.redHat, releaseNumber 7 0)
  | .rhel8 => some (.redHat, releaseNumber 8 0)
  | .rhel9 => some (.redHat, releaseNumber 9 0)
  | _ => none

/-- The second tag stands for the same release of the same distribution or for a later one. -/
def SameOrNewer (old new : OsVersion) : Prop :=
  ∃ edition ∈ old.edition?, ∃ later ∈ new.edition?,
    edition.1 = later.1 ∧ edition.2 ≤ later.2

instance (old new : OsVersion) : Decidable (old.SameOrNewer new) :=
  inferInstanceAs (Decidable (∃ edition ∈ old.edition?, ∃ later ∈ new.edition?, _))

/-- The tag stands for the newest release of a distribution that is not above a number. -/
def IsNewest (distro : Distro) (number : ReleaseNumber) (tag : OsVersion) : Prop :=
  ∃ reached ≤ number, tag.edition? = some (distro, reached) ∧
    ∀ (lower : ReleaseNumber) (other : OsVersion), other.edition? = some (distro, lower) →
      lower ≤ number → lower ≤ reached

end OsVersion

namespace OsRelease

variable {number number' : ReleaseNumber} {tag : OsVersion} {milestones : List Milestone}

/-!
## Milestones
-/

/-- The tag of the latest milestone that a number has reached, with the latest one listed first. -/
def reachedTag? (milestones : List Milestone) (number : ReleaseNumber) : Option OsVersion :=
  (milestones.find? fun milestone => milestone.1 ≤ number).map Prod.snd

/-- Milestones from the latest one down, of which later ones have later tags. -/
structure Descending (milestones : List Milestone) : Prop where
  numbers : milestones.Pairwise fun later earlier => earlier.1 < later.1
  tags : ∀ earlier ∈ milestones, ∀ later ∈ milestones, earlier.1 ≤ later.1 →
    earlier.2.SameOrNewer later.2

theorem reachedTag?_nil (number : ReleaseNumber) : reachedTag? [] number = none := rfl

theorem reachedTag?_cons (milestone : Milestone) (rest : List Milestone) (number : ReleaseNumber) :
    reachedTag? (milestone :: rest) number =
      if milestone.1 ≤ number then some milestone.2 else reachedTag? rest number := by
  rw [reachedTag?, List.find?_cons]
  by_cases reached : milestone.1 ≤ number <;> simp [reached, reachedTag?]

/-- The first milestone that has been reached is the latest of them. -/
theorem find?_reached_eq_some_iff (descending : Descending milestones) {milestone : Milestone} :
    milestones.find? (fun milestone => milestone.1 ≤ number) = some milestone ↔
      milestone ∈ milestones ∧ milestone.1 ≤ number ∧
        ∀ other ∈ milestones, other.1 ≤ number → other.1 ≤ milestone.1 := by
  constructor
  · intro found
    have member := List.mem_of_find?_eq_some found
    obtain ⟨reached, later, earlier, split, missed⟩ := List.find?_eq_some_iff_append.mp found
    refine ⟨member, by simpa using reached, fun other inside within => ?_⟩
    rw [split, List.mem_append, List.mem_cons] at inside
    rcases inside with inside | rfl | inside
    · have beyond := missed other inside
      simp [within] at beyond
    · exact le_rfl
    · have numbers := descending.numbers
      rw [split, List.pairwise_append, List.pairwise_cons] at numbers
      exact (numbers.2.1.1 other inside).le
  · rintro ⟨member, reached, latest⟩
    obtain ⟨later, earlier, rfl⟩ := List.append_of_mem member
    rw [List.find?_eq_some_iff_append]
    refine ⟨by simpa using reached, later, earlier, rfl, fun other inside => ?_⟩
    have above := (List.pairwise_append.mp descending.numbers).2.2 other inside milestone
      List.mem_cons_self
    have beyond : ¬ other.1 ≤ number := fun within =>
      absurd (latest other (List.mem_append_left _ inside) within) (not_le.mpr above)
    simpa using beyond

theorem reachedTag?_eq_some_iff (descending : Descending milestones) :
    reachedTag? milestones number = some tag ↔
      ∃ threshold ≤ number, (threshold, tag) ∈ milestones ∧
        ∀ other ∈ milestones, other.1 ≤ number → other.1 ≤ threshold := by
  rw [reachedTag?, Option.map_eq_some_iff]
  simp only [find?_reached_eq_some_iff descending]
  constructor
  · rintro ⟨⟨threshold, _⟩, ⟨member, reached, latest⟩, rfl⟩
    exact ⟨threshold, reached, member, latest⟩
  · rintro ⟨threshold, reached, member, latest⟩
    exact ⟨(threshold, tag), ⟨member, reached, latest⟩, rfl⟩

theorem reachedTag?_eq_none_iff :
    reachedTag? milestones number = none ↔ ∀ milestone ∈ milestones, number < milestone.1 := by
  simp [reachedTag?]

/-- At a higher number there is a later tag. -/
theorem exists_reachedTag?_of_le (descending : Descending milestones) (upgraded : number ≤ number')
    (reached : reachedTag? milestones number = some tag) :
    ∃ tag', reachedTag? milestones number' = some tag' ∧ tag.SameOrNewer tag' := by
  obtain ⟨threshold, within, member, -⟩ := (reachedTag?_eq_some_iff descending).mp reached
  have within' := within.trans upgraded
  cases found : reachedTag? milestones number' with
  | none => exact absurd within' (not_le.mpr (reachedTag?_eq_none_iff.mp found _ member))
  | some tag' =>
      obtain ⟨threshold', -, member', latest⟩ := (reachedTag?_eq_some_iff descending).mp found
      exact ⟨tag', rfl, descending.tags _ member _ member' (latest _ member within')⟩

/-!
## The milestones of hosts
-/

def ubuntuMilestones : List Milestone :=
  [(releaseNumber 22 4, .ubuntu2204), (releaseNumber 20 4, .ubuntu2004),
    (releaseNumber 18 4, .ubuntu1804), (releaseNumber 16 4, .ubuntu1604),
    (releaseNumber 14 4, .ubuntu1404)]

/-- Linux Mint counts its own releases and has the tags of Ubuntu. -/
def mintMilestones : List Milestone :=
  [(releaseNumber 21 0, .ubuntu2204), (releaseNumber 20 0, .ubuntu2004),
    (releaseNumber 19 0, .ubuntu1804), (releaseNumber 18 0, .ubuntu1604),
    (releaseNumber 17 0, .ubuntu1404)]

def debianMilestones : List Milestone :=
  [(releaseNumber 12 0, .debian12), (releaseNumber 11 0, .debian11),
    (releaseNumber 10 0, .debian10), (releaseNumber 9 0, .debian9), (releaseNumber 8 0, .debian8),
    (releaseNumber 7 0, .debian7)]

def redHatMilestones : List Milestone :=
  [(releaseNumber 9 0, .rhel9), (releaseNumber 8 0, .rhel8), (releaseNumber 7 0, .rhel7),
    (releaseNumber 6 0, .rhel6)]

theorem ubuntuMilestones_descending : Descending ubuntuMilestones :=
  ⟨by decide, by decide⟩

theorem mintMilestones_descending : Descending mintMilestones :=
  ⟨by decide, by decide⟩

theorem debianMilestones_descending : Descending debianMilestones :=
  ⟨by decide, by decide⟩

theorem redHatMilestones_descending : Descending redHatMilestones :=
  ⟨by decide, by decide⟩

theorem mem_ubuntuMilestones_iff {threshold : ReleaseNumber} :
    (threshold, tag) ∈ ubuntuMilestones ↔ tag.edition? = some (.ubuntu, threshold) := by
  cases tag <;> simp [ubuntuMilestones, OsVersion.edition?, eq_comm]

theorem releaseNumber_le_iff {a b c d : Nat} :
    releaseNumber a b ≤ releaseNumber c d ↔ a < c ∨ a = c ∧ b ≤ d :=
  Prod.Lex.toLex_le_toLex

theorem major_le_iff {a major minor : Nat} :
    releaseNumber a 0 ≤ releaseNumber major minor ↔ a ≤ major := by
  rw [releaseNumber_le_iff]
  omega

theorem atOrBefore_iff {a b : UInt32 × UInt32} :
    atOrBefore a b = true ↔
      releaseNumber a.1.toNat a.2.toNat ≤ releaseNumber b.1.toNat b.2.toNat := by
  rw [atOrBefore, releaseNumber_le_iff, Bool.or_eq_true, Bool.and_eq_true, decide_eq_true_eq,
    decide_eq_true_eq, decide_eq_true_eq, UInt32.lt_iff_toNat_lt, UInt32.toNat_inj,
    UInt32.le_iff_toNat_le]

variable (major minor : UInt32)

theorem ubuntu?_eq :
    ubuntu? (major, minor) =
      reachedTag? ubuntuMilestones (releaseNumber major.toNat minor.toNat) := by
  have listed : ubuntuMilestones = ubuntuReleases.map fun known =>
      (releaseNumber known.1.1.toNat known.1.2.toNat, known.2) := rfl
  have tested : (fun known : (UInt32 × UInt32) × OsVersion =>
      atOrBefore known.1 (major, minor)) = fun known =>
        decide (releaseNumber known.1.1.toNat known.1.2.toNat ≤
          releaseNumber major.toNat minor.toNat) := by
    funext known
    rw [Bool.eq_iff_iff, atOrBefore_iff, decide_eq_true_eq]
  rw [ubuntu?, tested, listed, reachedTag?, List.find?_map, Option.map_map]
  rfl

theorem mint?_eq :
    mint? major = reachedTag? mintMilestones (releaseNumber major.toNat minor.toNat) := by
  simp only [mintMilestones, reachedTag?_cons, reachedTag?_nil, major_le_iff, mint?,
    UInt32.le_iff_toNat_le, ← UInt32.toNat_inj, UInt32.reduceToNat]
  split_ifs <;> first | rfl | omega

theorem debian?_eq :
    debian? major = reachedTag? debianMilestones (releaseNumber major.toNat minor.toNat) := by
  simp only [debianMilestones, reachedTag?_cons, reachedTag?_nil, major_le_iff, debian?,
    UInt32.le_iff_toNat_le, ← UInt32.toNat_inj, UInt32.reduceToNat]
  split_ifs <;> first | rfl | omega

theorem rhel?_eq :
    rhel? major = reachedTag? redHatMilestones (releaseNumber major.toNat minor.toNat) := by
  simp only [redHatMilestones, reachedTag?_cons, reachedTag?_nil, major_le_iff, rhel?,
    UInt32.le_iff_toNat_le, ← UInt32.toNat_inj, UInt32.reduceToNat]
  split_ifs <;> first | rfl | omega

/-!
## Distributions that are followed
-/

/-- The distributions whose hosts are followed through upgrades. -/
def followedIds : List String :=
  ["ubuntu", "pop", "linuxmint", "debian", "rhel", "centos", "rocky", "almalinux", "ol"]

/-- The distributions with tags of other kinds. -/
def otherIds : List String := ["amzn", "sles", "opensuse-leap"]

/-- A distribution is followed by its own name, or as an unknown one that is related to Red Hat. -/
inductive Followed (id idLike : String) : Prop where
  | named (listed : id ∈ followedIds)
  | related (unlisted : id ∉ followedIds ++ otherIds)
      (relative : "rhel".toList ∈ Text.words idLike.toList)

/-- The milestones of the hosts of a followed distribution. -/
def milestonesOf (id : String) : List Milestone :=
  if id = "ubuntu" || id = "pop" then ubuntuMilestones
  else if id = "linuxmint" then mintMilestones
  else if id = "debian" then debianMilestones
  else redHatMilestones

theorem milestonesOf_descending (id : String) : Descending (milestonesOf id) := by
  unfold milestonesOf
  split_ifs
  · exact ubuntuMilestones_descending
  · exact mintMilestones_descending
  · exact debianMilestones_descending
  · exact redHatMilestones_descending

theorem Followed.not_mem_otherIds {id idLike : String} (followed : Followed id idLike) :
    id ∉ otherIds := by
  cases followed with
  | named listed =>
      have apart : ∀ id ∈ followedIds, id ∉ otherIds := by decide
      exact apart id listed
  | related unlisted => exact fun other => unlisted (List.mem_append_right _ other)

theorem tag?_of_followed {id idLike : String} (followed : Followed id idLike) :
    tag? id.toList (Text.words idLike.toList) (major, minor) =
      reachedTag? (milestonesOf id) (releaseNumber major.toNat minor.toNat) := by
  rw [tag?, String.ofList_toList, milestonesOf]
  dsimp only
  split_ifs with ubuntu mint debian redHat amazon suse relative
  · exact ubuntu?_eq major minor
  · exact mint?_eq major minor
  · exact debian?_eq major minor
  · exact rhel?_eq major minor
  · exact absurd (by simp [otherIds, amazon]) followed.not_mem_otherIds
  · exact absurd (by simpa [otherIds] using Or.inr suse) followed.not_mem_otherIds
  · exact rhel?_eq major minor
  · cases followed with
    | named listed => simp_all [followedIds, rhelFamily]
    | related unlisted related => exact absurd (by simpa using related) relative

/-!
## Version numbers
-/

/-- The minor that the second piece of a version number stands for. One that is missing or no
numeral of a word counts as zero. -/
inductive Minor : List (List Char) → UInt32 → Prop where
  | missing : Minor [] 0
  | read {piece : List Char} {rest : List (List Char)} {minor : UInt32}
      (numeral : Text.Numeral piece minor.toNat) : Minor (piece :: rest) minor
  | unread {piece : List Char} {rest : List (List Char)}
      (noNumeral : ∀ word : UInt32, ¬ Text.Numeral piece word.toNat) : Minor (piece :: rest) 0

/-- The major and the minor that a version number stands for, by its pieces between dots. -/
inductive StandsFor : List Char → UInt32 → UInt32 → Prop where
  | pieces {versionId first : List Char} {rest : List (List Char)} {major minor : UInt32}
      (joined : versionId = ['.'].intercalate (first :: rest))
      (undotted : ∀ piece ∈ first :: rest, '.' ∉ piece)
      (leading : Text.Numeral first major.toNat) (second : Minor rest minor) :
      StandsFor versionId major minor

variable {major minor} {versionId first : List Char} {rest : List (List Char)}

theorem minor_iff_readUInt32 {piece : List Char} :
    Minor (piece :: rest) minor ↔ (Text.readUInt32 piece).toOption.getD 0 = minor := by
  cases read : Text.readUInt32 piece with
  | ok word =>
      have numeral := Text.readUInt32_eq_ok_iff.mp read
      constructor
      · intro second
        cases second with
        | read numeral' =>
            have read' := Text.readUInt32_eq_ok_iff.mpr numeral'
            exact Except.ok.inj (read.symm.trans read')
        | unread noNumeral => exact absurd numeral (noNumeral word)
      · rintro rfl
        exact .read numeral
  | error error =>
      have noNumeral (word : UInt32) : ¬ Text.Numeral piece word.toNat := by
        intro numeral
        cases read.symm.trans (Text.readUInt32_eq_ok_iff.mpr numeral)
      constructor
      · intro second
        cases second with
        | read numeral => exact absurd numeral (noNumeral minor)
        | unread => rfl
      · rintro rfl
        exact .unread noNumeral

theorem release?_eq_some_iff_of_pieces (cut : Text.splitAll '.' versionId = first :: rest) :
    release? versionId = some (major, minor) ↔
      Text.Numeral first major.toNat ∧ Minor rest minor := by
  rw [release?, cut, ← Text.readUInt32_eq_ok_iff]
  dsimp only
  cases Text.readUInt32 first with
  | error error => simp
  | ok word =>
      cases rest with
      | nil =>
          simp only [Option.some.injEq, Prod.mk.injEq, Except.ok.injEq]
          exact and_congr_right fun _ => ⟨fun zero => zero ▸ .missing, fun | .missing => rfl⟩
      | cons piece rest =>
          simp only [Option.some.injEq, Prod.mk.injEq, Except.ok.injEq, minor_iff_readUInt32]

theorem release?_eq_some_iff :
    release? versionId = some (major, minor) ↔ StandsFor versionId major minor := by
  constructor
  · intro read
    obtain ⟨first, rest, cut⟩ := List.exists_cons_of_ne_nil (Text.splitAll_ne_nil '.' versionId)
    obtain ⟨leading, second⟩ := (release?_eq_some_iff_of_pieces cut).mp read
    have joined : versionId = ['.'].intercalate (first :: rest) := by
      rw [← cut, Text.intercalate_splitAll]
    have undotted : ∀ piece ∈ first :: rest, '.' ∉ piece :=
      fun piece member => Text.not_mem_of_mem_splitAll (cut ▸ member)
    exact .pieces joined undotted leading second
  · intro stands
    cases stands with
    | pieces joined undotted leading second =>
        have cut := Text.splitAll_intercalate (List.cons_ne_nil _ _) undotted
        rw [← joined] at cut
        exact (release?_eq_some_iff_of_pieces cut).mpr ⟨leading, second⟩

/-- Any two words, as they are printed, are the major and the minor of a version number. -/
theorem standsFor_printed (major minor : UInt32) :
    StandsFor (major.toNat.repr ++ "." ++ minor.toNat.repr).toList major minor := by
  have leading := Text.Numeral.repr major.toNat
  have second := Text.Numeral.repr minor.toNat
  have joined : (major.toNat.repr ++ "." ++ minor.toNat.repr).toList =
      ['.'].intercalate [major.toNat.repr.toList, minor.toNat.repr.toList] := by simp
  have undotted : ∀ piece ∈ [major.toNat.repr.toList, minor.toNat.repr.toList], '.' ∉ piece := by
    simp only [List.forall_mem_cons]
    exact ⟨leading.not_mem rfl (by decide), second.not_mem rfl (by decide), by simp⟩
  exact .pieces joined undotted leading (.read second)

/-!
## Hosts through upgrades
-/

/-- An `os-release` text gives a distribution, its relatives and a release. -/
inductive Describes : String → String → String → UInt32 → UInt32 → Prop where
  | lines {content id idLike : String} {major minor : UInt32} {lines : List (List Char)}
      {versionId : List Char} (made : HasLines content lines)
      (ofId : LastValue lines "ID".toList id.toList)
      (ofVersionId : LastValue lines "VERSION_ID".toList versionId)
      (ofIdLike : LastValue lines "ID_LIKE".toList idLike.toList)
      (stands : StandsFor versionId major minor) : Describes content id idLike major minor

/-- The release tags of a host of a followed distribution. -/
structure KeepsUp (content id : String) (number : ReleaseNumber) : Prop where
  newest_lts : id = "ubuntu" ∨ id = "pop" →
    ∀ tag, detect? content = some tag ↔ tag.IsNewest .ubuntu number
  no_lts : id = "ubuntu" ∨ id = "pop" →
    (detect? content = none ↔ number < releaseNumber 14 4)
  upgraded : ∀ other idLike major minor, Describes other id idLike major minor →
    Followed id idLike → number ≤ releaseNumber major.toNat minor.toNat →
      ∀ tag, detect? content = some tag →
        ∃ tag', detect? other = some tag' ∧ tag.SameOrNewer tag'

theorem Describes.detect?_eq {content id idLike : String}
    (describes : Describes content id idLike major minor) (followed : Followed id idLike) :
    detect? content = reachedTag? (milestonesOf id) (releaseNumber major.toNat minor.toNat) := by
  cases describes with
  | lines made ofId ofVersionId ofIdLike stands =>
      rw [made.detect?_eq, lastValue_iff.mp ofId, lastValue_iff.mp ofVersionId,
        lastValue_iff.mp ofIdLike, tagOfValues, release?_eq_some_iff.mpr stands, Option.bind_some,
        tag?_of_followed major minor followed]

theorem detect?_keepsUp {content id idLike : String}
    (describes : Describes content id idLike major minor) (followed : Followed id idLike) :
    KeepsUp content id (releaseNumber major.toNat minor.toNat) := by
  have detected := describes.detect?_eq followed
  have lts (ubuntu : id = "ubuntu" ∨ id = "pop") : milestonesOf id = ubuntuMilestones := by
    rcases ubuntu with rfl | rfl <;> rfl
  constructor
  case newest_lts =>
    intro ubuntu tag
    rw [detected, lts ubuntu, reachedTag?_eq_some_iff ubuntuMilestones_descending]
    simp only [OsVersion.IsNewest, mem_ubuntuMilestones_iff, Prod.forall]
  case no_lts =>
    intro ubuntu
    rw [detected, lts ubuntu, reachedTag?_eq_none_iff]
    have oldest : ∀ milestone ∈ ubuntuMilestones, releaseNumber 14 4 ≤ milestone.1 := by decide
    have listed : (releaseNumber 14 4, OsVersion.ubuntu1404) ∈ ubuntuMilestones := by decide
    exact ⟨fun below => below _ listed,
      fun below milestone member => below.trans_le (oldest milestone member)⟩
  case upgraded =>
    intro other idLike' major' minor' describes' followed' upgraded tag found
    rw [detected] at found
    rw [describes'.detect?_eq followed']
    exact exists_reachedTag?_of_le (milestonesOf_descending id) upgraded found

/-- A release between two known ones. -/
theorem detect?_keepsUp_on_pop :
    let content := "ID_LIKE=\x22ubuntu debian\x22\nID=pop\nVERSION_ID=\x2221.10\x22"
    Describes content "pop" "ubuntu debian" 21 10 ∧ Followed "pop" "ubuntu debian" ∧
      KeepsUp content "pop" (releaseNumber 21 10) := by
  intro content
  have describes : Describes content "pop" "ubuntu debian" 21 10 := by
    have stands : StandsFor "21.10".toList 21 10 := standsFor_printed 21 10
    refine .lines (hasLines_splitAll content) ?_ ?_ ?_ stands
    · exact lastValue_iff.mpr (by decide +kernel)
    · exact lastValue_iff.mpr (by decide +kernel)
    · exact lastValue_iff.mpr (by decide +kernel)
  have followed : Followed "pop" "ubuntu debian" := .named (by decide)
  exact ⟨describes, followed, detect?_keepsUp describes followed⟩

end OsRelease

end ThrowawayServer
