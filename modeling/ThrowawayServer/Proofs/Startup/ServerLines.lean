import ThrowawayServer.Proofs.Pattern.Search
import ThrowawayServer.Startup.Patterns

/-!
# What a line of a server means

The signs that a server prints are pieces of text, so that what a line means can be said without
patterns: which pieces occur in it, and where the first occurrence of one stands. A sign of readiness
counts before all signs of failure, and among these the order in which they are declared decides,
not the order in which they stand in the line.
-/

set_option autoImplicit false

namespace ThrowawayServer

open Text (FirstAt FirstFrom)

variable {line text : List Char} {place : Place}

/-!
## What patterns tell
-/

namespace StartupPatterns

/-- What a pattern for failures tells of the piece that starts at a place. -/
def toldAt? (pattern : Pattern) (place : Place) : Option (List Char) :=
  (pattern.foundAt? place).map fun found => (found.named? errorName).getD found.text

theorem failureText?_eq (pattern : Pattern) (line : List Char) :
    failureText? pattern line =
      (((⟨0, line, []⟩ : Place).through line.length).findSome? (toldAt? pattern)).map Text.trim := by
  have told_first := List.map_findSome? (f := pattern.foundAt?)
    (g := fun found => (found.named? errorName).getD found.text)
    (l := (⟨0, line, []⟩ : Place).through line.length)
  rw [failureText?, Pattern.find?_eq]
  change _ = (List.findSome? (Option.map _ ∘ pattern.foundAt?) _).map Text.trim
  rw [← told_first, Option.map_map]
  rfl

theorem toldAt?_named (pattern : Pattern) (place : Place) :
    toldAt? (.named errorName pattern) place =
      (pattern.ends place).head?.map fun stop => (place.upTo stop).text := by
  rw [toldAt?, Pattern.foundAt?, Pattern.ends_named, List.head?_map]
  cases (pattern.ends place).head? with
  | none => rfl
  | some stop => simp [Pattern.Found.named?, Place.name]

end StartupPatterns

/-!
## Signs of failure
-/

/-- How a line says that a start has failed. -/
inductive FailureSign where
  | addressInUse
  /-- The text from a mark to the end of the line. -/
  | onward (mark : String)
  /-- The same, if another text stands behind the mark. -/
  | apart (mark ending : String)
  /-- The text behind a mark. -/
  | behind (mark : String)
  deriving DecidableEq, Repr

def addressInUseText : String := "Address already in use"

/-- The signs of the servers in the order in which they count. -/
def serverSigns : List FailureSign :=
  [.addressInUse,
    .onward "error while loading shared libraries:",
    .onward "Error parsing command line:",
    .onward "Error parsing option ",
    .apart "Data directory " " not found",
    .onward "DBPathInUse:",
    .onward "exception in initAndListen",
    .behind "ERROR: "]

namespace FailureSign

open StartupPatterns

/-- A line shows a sign, with the text that is reported for it. -/
inductive Reports (line : List Char) : FailureSign → List Char → Prop where
  | addressInUse (occurs : addressInUseText.toList <:+: line) :
      Reports line .addressInUse addressInUseText.toList
  | onward {mark : String} {before after : List Char} (first : FirstAt mark.toList line before after) :
      Reports line (.onward mark) (Text.trim (mark.toList ++ after))
  | apart {mark ending : String} {before after : List Char}
      (first : FirstAt mark.toList line before after) (later : ending.toList <:+: after) :
      Reports line (.apart mark ending) (Text.trim (mark.toList ++ after))
  | behind {mark : String} {before after : List Char} (first : FirstAt mark.toList line before after) :
      Reports line (.behind mark) (Text.trim after)

def pattern : FailureSign → Pattern
  | .addressInUse => .named errorName (.text addressInUseText)
  | .onward mark => failureFrom mark
  | .apart mark ending =>
    .named errorName (.all [.text mark, .anything, .text ending, .anything])
  | .behind mark => .sequence (.text mark) (.named errorName .anything)

def mark : FailureSign → String
  | .addressInUse => addressInUseText
  | .onward mark => mark
  | .apart mark _ => mark
  | .behind mark => mark

/-- What a sign asks of the text behind its mark. -/
def Allows : FailureSign → List Char → Prop
  | .apart _ ending, after => ending.toList <:+: after
  | _, _ => True

/-- What a sign tells, given the text behind its mark. -/
def told : FailureSign → List Char → List Char
  | .addressInUse, _ => addressInUseText.toList
  | .onward mark, after => mark.toList ++ after
  | .apart mark _, after => mark.toList ++ after
  | .behind _, after => after

variable {sign : FailureSign}

theorem Allows.of_suffix {after after' : List Char} (ends : after <:+ after')
    (allows : sign.Allows after) : sign.Allows after' := by
  cases sign with
  | apart mark ending => exact List.IsInfix.trans allows ends.isInfix
  | _ => trivial

theorem trim_addressInUseText :
    Text.trim addressInUseText.toList = addressInUseText.toList := by decide

theorem reports_iff :
    sign.Reports line text ↔
      ∃ before after, FirstAt sign.mark.toList line before after ∧ sign.Allows after ∧
        Text.trim (sign.told after) = text := by
  constructor
  · intro reports
    cases reports with
    | addressInUse occurs =>
        obtain ⟨before, after, first⟩ := Text.exists_firstAt occurs
        exact ⟨before, after, first, trivial, trim_addressInUseText⟩
    | onward first => exact ⟨_, _, first, trivial, rfl⟩
    | apart first later => exact ⟨_, _, first, later, rfl⟩
    | behind first => exact ⟨_, _, first, trivial, rfl⟩
  · rintro ⟨before, after, first, allows, rfl⟩
    cases sign with
    | addressInUse =>
        rw [told, trim_addressInUseText]
        exact .addressInUse first.occurs
    | onward mark => exact .onward first
    | apart mark ending => exact .apart first allows
    | behind mark => exact .behind first

theorem pattern_apart (mark ending : String) :
    pattern (.apart mark ending) = .named errorName (.sequence (.text mark)
      (.sequence .anything (.sequence (.text ending) .anything))) := rfl

theorem toldAt?_of_mark {after : List Char} (unbroken : '\n' ∉ place.rest)
    (joined : place.rest = sign.mark.toList ++ after) :
    toldAt? sign.pattern place = some text ↔ sign.Allows after ∧ sign.told after = text := by
  have starts : sign.mark.toList <+: place.rest := ⟨after, joined.symm⟩
  have behind : (place.pass sign.mark.toList.length).rest = after := by
    rw [Place.pass_rest, joined, List.drop_left]
  have unbroken_behind := Place.unbroken_pass unbroken sign.mark.toList.length
  cases sign with
  | addressInUse =>
      have taken : place.rest.take addressInUseText.toList.length = addressInUseText.toList :=
        (List.prefix_iff_eq_take.mp starts).symm
      simp only [mark] at starts
      rw [pattern, toldAt?_named, Pattern.text, Pattern.ends_characters, if_pos starts,
        List.head?_cons, Option.map_some, Place.text_upTo_pass, taken, Option.some.injEq]
      exact (and_iff_right trivial).symm
  | onward mark =>
      simp only [FailureSign.mark] at starts joined
      rw [pattern, failureFrom, toldAt?_named, Pattern.head?_ends_onward mark unbroken,
        if_pos starts, Option.map_some, Place.text_upTo_finish, joined, Option.some.injEq]
      exact (and_iff_right trivial).symm
  | apart mark ending =>
      simp only [FailureSign.mark] at starts joined behind unbroken_behind
      rw [pattern_apart, toldAt?_named, Pattern.ends_text_sequence, if_pos starts,
        Pattern.head?_ends_ahead ending unbroken_behind, behind, Place.finish_pass starts.length_le]
      by_cases later : ending.toList <:+: after
      · simp [later, Allows, told, joined]
      · simp [later, Allows]
  | behind mark =>
      simp only [FailureSign.mark] at starts behind unbroken_behind
      rw [pattern, toldAt?, Pattern.foundAt?, Pattern.ends_text_sequence, if_pos starts,
        Pattern.ends_named, List.head?_map, Pattern.head?_ends_anything unbroken_behind]
      simp only [Option.map_some, Pattern.Found.named?, Place.name, List.lookup_cons_self,
        Place.text_upTo_finish, behind, Option.getD_some, Option.some.injEq]
      exact (and_iff_right trivial).symm

theorem toldAt?_of_other (other : ¬ sign.mark.toList <+: place.rest) :
    toldAt? sign.pattern place = none := by
  have no_end : sign.pattern.ends place = [] := by
    cases sign with
    | addressInUse =>
        simp only [mark] at other
        rw [pattern, Pattern.ends_named, Pattern.text, Pattern.ends_characters, if_neg other,
          List.map_nil]
    | onward mark =>
        simp only [FailureSign.mark] at other
        rw [pattern, failureFrom, Pattern.ends_named, Pattern.ends_text_sequence, if_neg other,
          List.map_nil]
    | apart mark ending =>
        simp only [FailureSign.mark] at other
        rw [pattern_apart, Pattern.ends_named, Pattern.ends_text_sequence, if_neg other,
          List.map_nil]
    | behind mark =>
        simp only [FailureSign.mark] at other
        rw [pattern, Pattern.ends_text_sequence, if_neg other]
  rw [toldAt?, Pattern.foundAt?, no_end]
  rfl

theorem toldAt?_eq_some_iff (unbroken : '\n' ∉ place.rest) :
    toldAt? sign.pattern place = some text ↔
      ∃ after, place.rest = sign.mark.toList ++ after ∧ sign.Allows after ∧ sign.told after = text := by
  by_cases starts : sign.mark.toList <+: place.rest
  · obtain ⟨after, joined⟩ := starts
    rw [toldAt?_of_mark unbroken joined.symm, ← joined]
    simp only [List.append_cancel_left_eq, exists_eq_left']
  · rw [toldAt?_of_other starts]
    simp only [reduceCtorEq, false_iff]
    rintro ⟨after, joined, -⟩
    exact starts ⟨after, joined.symm⟩

theorem failureText?_eq_some_iff (unbroken : '\n' ∉ line) :
    failureText? sign.pattern line = some text ↔ sign.Reports line text := by
  let start : Place := ⟨0, line, []⟩
  have unbroken_behind (passed : Nat) : '\n' ∉ (start.pass passed).rest :=
    Place.unbroken_pass unbroken passed
  have meets (passed : Nat) : (toldAt? sign.pattern (start.pass passed)).isSome ↔
      ∃ after, start.rest.drop passed = sign.mark.toList ++ after ∧ sign.Allows after := by
    simp only [Option.isSome_iff_exists, toldAt?_eq_some_iff (unbroken_behind passed),
      Place.pass_rest]
    constructor
    · rintro ⟨told, after, joined, allows, -⟩
      exact ⟨after, joined, allows⟩
    · rintro ⟨after, joined, allows⟩
      exact ⟨_, after, joined, allows, rfl⟩
  have search (told : List Char) :
      (start.through line.length).findSome? (toldAt? sign.pattern) = some told ↔
        ∃ before after, FirstAt sign.mark.toList line before after ∧ sign.Allows after ∧
          sign.told after = told := by
    have at_mark {before after : List Char} (first : FirstAt sign.mark.toList line before after) :
        toldAt? sign.pattern (start.pass before.length) = some told ↔
          sign.Allows after ∧ sign.told after = told := by
      have behind : line.drop before.length = sign.mark.toList ++ after := by
        rw [first.joined, List.drop_left]
      exact toldAt?_of_mark (unbroken_behind _) behind
    rw [Place.findSome?_through_end_iff
      (fun rest => ∃ after, rest = sign.mark.toList ++ after ∧ sign.Allows after) meets]
    simp only [Text.firstFrom_token_iff fun after after' => Allows.of_suffix]
    constructor
    · rintro ⟨before, rest, ⟨after, rfl, first, -⟩, last⟩
      exact ⟨before, after, first, (at_mark first).mp last⟩
    · rintro ⟨before, after, first, allows, same⟩
      exact ⟨before, _, ⟨after, rfl, first, allows⟩, (at_mark first).mpr ⟨allows, same⟩⟩
  rw [failureText?_eq, Option.map_eq_some_iff, reports_iff]
  simp only [start, search]
  constructor
  · rintro ⟨told, ⟨before, after, first, allows, rfl⟩, trimmed⟩
    exact ⟨before, after, first, allows, trimmed⟩
  · rintro ⟨before, after, first, allows, trimmed⟩
    exact ⟨_, ⟨before, after, first, allows, rfl⟩, trimmed⟩

end FailureSign

/-!
## Lines of a server
-/

theorem server_failures :
    StartupPatterns.server.failures = serverSigns.map FailureSign.pattern := rfl

def SaysReady (line : List Char) : Prop :=
  "waiting for connections on port".toList <:+: line ∨
    "\"msg\":\"Waiting for connections\"".toList <:+: line

/-- What a line of a server means, by the pieces of text in it. -/
inductive ServerLine (line : List Char) : Option StartupVerdict → Prop where
  | ready (sign : SaysReady line) : ServerLine line (some .ready)
  | failed {earlier later : List FailureSign} {sign : FailureSign} {text : List Char}
      (quiet : ¬ SaysReady line) (cut : serverSigns = earlier ++ sign :: later)
      (reports : sign.Reports line text)
      (silent : ∀ sign ∈ earlier, ∀ text, ¬ sign.Reports line text) :
      ServerLine line (some (.failed text))
  | undecided (quiet : ¬ SaysReady line)
      (silent : ∀ sign ∈ serverSigns, ∀ text, ¬ sign.Reports line text) : ServerLine line none

theorem isSuccess_server_iff : StartupPatterns.server.isSuccess line = true ↔ SaysReady line := by
  rw [StartupPatterns.isSuccess, SaysReady, StartupPatterns.server, List.any_cons, List.any_cons,
    List.any_nil, Bool.or_false, Bool.or_eq_true, Text.contains_iff_infix, Text.contains_iff_infix]

theorem silent_iff {sign : FailureSign} (unbroken : '\n' ∉ line) :
    StartupPatterns.failureText? sign.pattern line = none ↔ ∀ text, ¬ sign.Reports line text := by
  rw [Option.eq_none_iff_forall_ne_some]
  simp only [ne_eq, FailureSign.failureText?_eq_some_iff unbroken]

theorem classify_server_eq (line : List Char) :
    StartupPatterns.server.classify line =
      if StartupPatterns.server.isSuccess line then some .ready
      else (serverSigns.findSome? fun sign =>
        StartupPatterns.failureText? sign.pattern line).map .failed := by
  rw [StartupPatterns.classify, server_failures, List.findSome?_map]
  rfl

theorem classify_server_iff (unbroken : '\n' ∉ line) {verdict : Option StartupVerdict} :
    StartupPatterns.server.classify line = verdict ↔ ServerLine line verdict := by
  rw [classify_server_eq]
  by_cases sign : SaysReady line
  · rw [if_pos (isSuccess_server_iff.mpr sign)]
    constructor
    · rintro rfl
      exact .ready sign
    · intro means
      cases means with
      | ready => rfl
      | failed quiet => exact absurd sign quiet
      | undecided quiet => exact absurd sign quiet
  · rw [if_neg fun success => sign (isSuccess_server_iff.mp success)]
    constructor
    · rintro rfl
      cases first : serverSigns.findSome? fun sign =>
          StartupPatterns.failureText? sign.pattern line with
      | none =>
          refine .undecided sign fun failure member => (silent_iff unbroken).mp ?_
          exact List.findSome?_eq_none_iff.mp first failure member
      | some text =>
          obtain ⟨earlier, failure, later, cut, reports, silent⟩ :=
            List.findSome?_eq_some_iff.mp first
          refine .failed sign cut ((FailureSign.failureText?_eq_some_iff unbroken).mp reports) ?_
          exact fun other member => (silent_iff unbroken).mp (silent other member)
    · intro means
      cases means with
      | ready shown => exact absurd shown sign
      | @failed earlier later failure text _ cut reports silent =>
          rw [Option.map_eq_some_iff]
          refine ⟨text, List.findSome?_eq_some_iff.mpr ⟨earlier, failure, later, cut, ?_, ?_⟩, rfl⟩
          · exact (FailureSign.failureText?_eq_some_iff unbroken).mpr reports
          · exact fun other member => (silent_iff unbroken).mpr (silent other member)
      | undecided _ silent =>
          rw [Option.map_eq_none_iff, List.findSome?_eq_none_iff]
          exact fun failure member => (silent_iff unbroken).mpr (silent failure member)

theorem Program.classify_iff_serverLine {program : Program}
    (server : program = .mongod ∨ program = .mongos) (unbroken : '\n' ∉ line)
    (verdict : Option StartupVerdict) :
    program.startupPatterns.classify line = verdict ↔ ServerLine line verdict := by
  have patterns : program.startupPatterns = .server := by
    rcases server with rfl | rfl <;> rfl
  rw [patterns, classify_server_iff unbroken]

/-- The sign that is declared earlier counts, though it stands behind another one. -/
theorem Program.classify_iff_serverLine_on_mongos :
    let line := "ERROR: in initAndListen: Data directory /data/db not found. ".toList
    (Program.mongos = .mongod ∨ Program.mongos = .mongos) ∧ '\n' ∉ line ∧
      ServerLine line (some (.failed "Data directory /data/db not found.".toList)) := by
  intro line
  have server : Program.mongos = .mongod ∨ Program.mongos = .mongos := .inr rfl
  have unbroken : '\n' ∉ line := by decide
  refine ⟨server, unbroken, (classify_iff_serverLine server unbroken _).mp ?_⟩
  decide +kernel

end ThrowawayServer
