import ThrowawayServer.Proofs.Pattern.Captures
import ThrowawayServer.Proofs.Startup.FirstVerdict
import ThrowawayServer.Proofs.Text.Numeral

/-!
# The process number of a server

A server prints its process number in a banner when it starts, as plain text or as a field of a
structured log. The first line with a banner decides alone: if its digits are no numeral of a word,
the number stays unknown, whatever is printed later. After a verdict nothing is added to the lines,
so that the number does not change any more.
-/

set_option autoImplicit false

namespace ThrowawayServer

open Text (FirstAt FirstFrom)

/-!
## Banners
-/

def bannerMark : String := "MongoDB starting"

def fieldMark : String := "\"pid\":"

/-- A field with a process number stands at the start of a text. -/
def PidField (rest digits : List Char) : Prop :=
  ∃ text, rest = fieldMark.toList ++ text ∧
    ∃ after, LeadingRun Text.isDecimalDigit text digits after

/-- A banner with the digits of a process number stands at the start of a text. -/
inductive Banner : List Char → List Char → Prop where
  | plain {blanks blanks' text digits after : List Char} (blank : ∀ c ∈ blanks, Text.isBlank c)
      (blank' : ∀ c ∈ blanks', Text.isBlank c)
      (run : LeadingRun Text.isDecimalDigit text digits after) :
      Banner (bannerMark.toList ++ (blanks ++ ':' :: (blanks' ++ ("pid=".toList ++ text)))) digits
  | structured {attributes skipped rest digits : List Char}
      (first : FirstFrom (fun rest => ∃ digits, PidField rest digits) attributes skipped rest)
      (field : PidField rest digits) : Banner (bannerMark.toList ++ '\x22' :: attributes) digits

/-- A line contains a banner, and these are the digits of its first one. -/
def PrintsBanner (line digits : List Char) : Prop :=
  ∃ before rest, FirstFrom (fun rest => ∃ digits, Banner rest digits) line before rest ∧
    Banner rest digits

variable {line rest digits : List Char} {number : UInt32}

theorem Banner.mark (banner : Banner rest digits) : bannerMark.toList <+: rest := by
  cases banner <;> exact List.prefix_append _ _

theorem PidField.mark (field : PidField rest digits) : fieldMark.toList <+: rest := by
  obtain ⟨text, rfl, -⟩ := field
  exact List.prefix_append _ _

namespace Classifier

theorem pidPattern_captures : pidPattern.Captures pidName Banner := by
  have value := Pattern.Captures.named_repeated .digit pidName
  have assigned := (value.text_sequence "pid=").many_sequence .blank (by
    rintro _ _ ⟨text, rfl, -⟩ c ⟨⟩
    decide)
  have plain := (assigned.assoc.text_sequence ":").assoc.many_sequence .blank (by
    rintro _ _ ⟨text, rfl, -⟩ c ⟨⟩
    decide)
  have structured := (value.text_sequence "\"pid\":").shortest_sequence.assoc.text_sequence "\""
  -- A quotation mark is neither blank nor a colon, so that only one of the formats can follow.
  have either := plain.assoc.choice_sequence structured.assoc (by
    rintro rest digits digits' ⟨blanks, _, rfl, blank, _, rfl, -⟩ ⟨attributes, other, -⟩
    cases blanks with
    | nil => cases other
    | cons c blanks =>
        cases other
        exact absurd (blank '\x22' List.mem_cons_self) (by decide))
  refine (either.text_sequence bannerMark).congr fun rest digits => ?_
  constructor
  · rintro ⟨_, rfl, ⟨blanks, _, rfl, blank, _, rfl, blanks', _, rfl, blank', text, rfl, after, run⟩ |
      ⟨attributes, rfl, skipped, field, first, value⟩⟩
    · exact .plain blank blank' run
    · exact .structured first value
  · intro shown
    cases shown with
    | @plain blanks blanks' text digits after blank blank' run =>
        exact ⟨_, rfl, .inl ⟨blanks, _, rfl, blank, _, rfl, blanks', _, rfl, blank', text, rfl, after,
          run⟩⟩
    | @structured attributes skipped rest digits first field =>
        exact ⟨_, rfl, .inr ⟨attributes, rfl, skipped, rest, first, field⟩⟩

theorem reportedIn?_eq (line : List Char) :
    reportedIn? line =
      (((⟨0, line, []⟩ : Place).through line.length).findSome? (pidPattern.captured? pidName)).map
        fun digits => (Text.readUInt32 digits).toOption := by
  rw [reportedIn?, ← Pattern.find?_captured, Option.map_map]
  congr 1
  funext found
  rw [Function.comp_apply]
  cases found.named? pidName <;> rfl

theorem reportedIn?_eq_some_iff (unbroken : '\n' ∉ line) {reported : ReportedPid} :
    reportedIn? line = some reported ↔
      ∃ digits, PrintsBanner line digits ∧ (Text.readUInt32 digits).toOption = reported := by
  have unbroken_start : '\n' ∉ (⟨0, line, []⟩ : Place).rest := unbroken
  rw [reportedIn?_eq, Option.map_eq_some_iff]
  exact exists_congr fun digits =>
    and_congr_left fun _ => pidPattern_captures.findSome?_iff unbroken_start

theorem reportedIn?_eq_none_iff (unbroken : '\n' ∉ line) :
    reportedIn? line = none ↔ ∀ digits, ¬ PrintsBanner line digits := by
  rw [Option.eq_none_iff_forall_ne_some]
  simp only [ne_eq, reportedIn?_eq_some_iff unbroken, not_exists, not_and]
  exact ⟨fun silent digits prints => silent _ digits prints rfl,
    fun silent _ digits prints _ => silent digits prints⟩

end Classifier

/-!
## Lines that announce a number
-/

/-- A line has a banner for a number in one of the two formats. -/
inductive Announces : List Char → UInt32 → Prop where
  | plain {before blanks blanks' after : List Char} {number : UInt32}
      (absent : ¬ bannerMark.toList <:+: before) (blank : ∀ c ∈ blanks, Text.isBlank c)
      (blank' : ∀ c ∈ blanks', Text.isBlank c)
      (ended : ∀ c ∈ after.head?, Text.isDecimalDigit c = false) :
      Announces (before ++ (bannerMark.toList ++ (blanks ++ ':' :: (blanks' ++ ("pid=".toList ++
        (number.toNat.repr.toList ++ after)))))) number
  | structured {before skipped after : List Char} {number : UInt32}
      (absent : ¬ bannerMark.toList <:+: before) (absent' : ¬ fieldMark.toList <:+: skipped)
      (ended : ∀ c ∈ after.head?, Text.isDecimalDigit c = false) :
      Announces (before ++ (bannerMark.toList ++ '\x22' :: (skipped ++ (fieldMark.toList ++
        (number.toNat.repr.toList ++ after))))) number

theorem leadingRun_printed (number : UInt32) {after : List Char}
    (ended : ∀ c ∈ after.head?, Text.isDecimalDigit c = false) :
    LeadingRun Text.isDecimalDigit (number.toNat.repr.toList ++ after) number.toNat.repr.toList
      after := by
  constructor
  case joined => rfl
  case filled => exact (Text.Numeral.repr number.toNat).nonempty
  case inside =>
    intro c member
    rw [Text.isDecimalDigit, Text.Numeral.isDigit_of_mem_repr member, Bool.true_or]
  case ended => exact ended

theorem printsBanner_of_mark {before after : List Char} (absent : ¬ bannerMark.toList <:+: before)
    (banner : Banner (bannerMark.toList ++ after) digits) :
    PrintsBanner (before ++ (bannerMark.toList ++ after)) digits := by
  have unbordered : Text.Unbordered bannerMark.toList := by decide
  refine ⟨before, _, .of_firstAt (Text.firstAt_of_unbordered unbordered absent after) ?_ ?_, banner⟩
  · exact fun rest ⟨digits, other⟩ => other.mark
  · exact ⟨digits, banner⟩

theorem Announces.printsBanner (announces : Announces line number) :
    PrintsBanner line number.toNat.repr.toList := by
  cases announces with
  | plain absent blank blank' ended =>
      exact printsBanner_of_mark absent (.plain blank blank' (leadingRun_printed number ended))
  | @structured before skipped after _ absent absent' ended =>
      have unbordered : Text.Unbordered fieldMark.toList := by decide
      have field : PidField (fieldMark.toList ++ (number.toNat.repr.toList ++ after))
          number.toNat.repr.toList := ⟨_, rfl, after, leadingRun_printed number ended⟩
      refine printsBanner_of_mark absent (.structured (.of_firstAt
        (Text.firstAt_of_unbordered unbordered absent' _) ?_ ⟨_, field⟩) field)
      exact fun rest ⟨digits, other⟩ => other.mark

/-!
## The first banner decides
-/

/-- How the process number of a server depends on the lines of a classifier. -/
structure PidByFirstBanner (classifier : Classifier) : Prop where
  /-- Digits that are no numeral of a word leave the number unknown, whatever later lines hold. -/
  decided : ∀ earlier line later digits, classifier.lines = earlier ++ line :: later →
    (∀ line ∈ earlier, ∀ digits, ¬ PrintsBanner line digits) → PrintsBanner line digits →
      ∀ number : UInt32, classifier.pid = some number ↔ Text.Numeral digits number.toNat
  unknown : (∀ line ∈ classifier.lines, ∀ digits, ¬ PrintsBanner line digits) →
    classifier.pid = none
  recognised : ∀ earlier line later number, classifier.lines = earlier ++ line :: later →
    (∀ line ∈ earlier, ∀ digits, ¬ PrintsBanner line digits) → Announces line number →
      classifier.pid = some number
  kept : classifier.verdict.isSome → ∀ events, (classifier.run events).pid = classifier.pid

namespace Classifier

variable {classifier : Classifier}

theorem pid_eq_some_iff {earlier later : List (List Char)}
    (unbroken : ∀ line ∈ classifier.lines, '\n' ∉ line)
    (cut : classifier.lines = earlier ++ line :: later)
    (silent : ∀ line ∈ earlier, ∀ digits, ¬ PrintsBanner line digits)
    (prints : PrintsBanner line digits) :
    classifier.pid = some number ↔ Text.Numeral digits number.toNat := by
  have unbroken_line : '\n' ∉ line := unbroken line (by rw [cut]; simp)
  have reported : reportedIn? line = some (Text.readUInt32 digits).toOption :=
    (reportedIn?_eq_some_iff unbroken_line).mpr ⟨digits, prints, rfl⟩
  have first : classifier.lines.findSome? reportedIn? = some (Text.readUInt32 digits).toOption := by
    refine List.findSome?_eq_some_iff.mpr ⟨earlier, line, later, cut, reported, ?_⟩
    intro other member
    have unbroken_other : '\n' ∉ other := unbroken other (by rw [cut]; simp [member])
    exact (reportedIn?_eq_none_iff unbroken_other).mpr (silent other member)
  rw [pid, first, Option.getD_some, ← Text.readUInt32_eq_ok_iff]
  cases Text.readUInt32 digits with
  | error error => exact ⟨nofun, nofun⟩
  | ok word => exact ⟨fun | rfl => rfl, fun | rfl => rfl⟩

theorem pid_byFirstBanner (unbroken : ∀ line ∈ classifier.lines, '\n' ∉ line) :
    PidByFirstBanner classifier := by
  constructor
  case decided =>
    intro earlier line later digits cut silent prints number
    exact pid_eq_some_iff unbroken cut silent prints
  case unknown =>
    intro silent
    have nothing : classifier.lines.findSome? reportedIn? = none :=
      List.findSome?_eq_none_iff.mpr fun line member =>
        (reportedIn?_eq_none_iff (unbroken line member)).mpr (silent line member)
    rw [pid, nothing, Option.getD_none]
  case recognised =>
    intro earlier line later number cut silent announces
    rw [pid_eq_some_iff unbroken cut silent announces.printsBanner]
    exact Text.Numeral.repr number.toNat
  case kept =>
    intro settled events
    rw [pid, pid, (run_of_settled settled events).2]

/-- A number that is too large in the first banner, a good one in the second. -/
theorem pid_byFirstBanner_on_large :
    let classifier : Classifier := { patterns := {}, lines := [
      "MongoDB starting : pid=4294967296 ".toList, "MongoDB starting : pid=7 ".toList] }
    (∀ line ∈ classifier.lines, '\n' ∉ line) ∧ PidByFirstBanner classifier := by
  intro classifier
  have unbroken : ∀ line ∈ classifier.lines, '\n' ∉ line := by decide
  exact ⟨unbroken, pid_byFirstBanner unbroken⟩

end Classifier

end ThrowawayServer
