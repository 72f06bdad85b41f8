import Mathlib.Logic.Relation
import ThrowawayServer.Proofs.Platform.ReleaseTag
import ThrowawayServer.Proofs.Text.Cutting

/-!
# Release tags by the last lines of a text

Of the lines of an `os-release` text only the last ones that assign to `ID`, `VERSION_ID` and
`ID_LIKE` decide the release tag. Other lines may come and go, lines with different keys change
places, lines end in a carriage return or not, and plain values stand in quotes or not.
-/

set_option autoImplicit false

namespace ThrowawayServer.OsRelease

variable {line left right key value other : List Char} {before after lines : List (List Char)}

/-!
## Assignments on single lines
-/

/-- A value as it is written: its blanks are cut away, then double quotes, then single ones. -/
inductive Written (value : List Char) : List Char → Prop where
  | quoted {text bare single : List Char} (blanks : Text.TrimmedTo Text.isBlank text bare)
      (doubles : Text.TrimmedTo (· = '\x22') bare single)
      (singles : Text.TrimmedTo (· = '\x27') single value) : Written value text

/-- A line assigns a value to a key: they stand on both sides of its first equals sign. -/
inductive Assigns : List Char → List Char → List Char → Prop where
  | cut {left right key value : List Char} (first : '=' ∉ left)
      (named : Text.TrimmedTo Text.isBlank left key) (written : Written value right) :
      Assigns (left ++ '=' :: right) key value

theorem unquote_eq_iff : unquote right = value ↔ Written value right := by
  constructor
  · rintro rfl
    exact .quoted (Text.trimmedTo_trimBy _ _) (Text.trimmedTo_trimBy _ _)
      (Text.trimmedTo_trimBy _ _)
  · intro written
    cases written with
    | quoted blanks doubles singles =>
        rw [unquote, Text.trim, blanks.trimBy_eq, doubles.trimBy_eq, singles.trimBy_eq]

theorem assignment?_eq_some_iff : assignment? line = some (key, value) ↔ Assigns line key value := by
  rw [assignment?, Option.map_eq_some_iff]
  constructor
  · intro found
    obtain ⟨⟨left, right⟩, cut, sides⟩ := found
    obtain ⟨rfl, first⟩ := Text.splitFirst_eq_some_iff.mp cut
    obtain ⟨named, written⟩ := Prod.mk.inj sides
    exact .cut first (Text.trimBy_eq_iff.mp named) (unquote_eq_iff.mp written)
  · intro assigns
    cases assigns with
    | @cut left right _ _ first named written =>
        refine ⟨(left, right), Text.splitFirst_eq_some_iff.mpr ⟨rfl, first⟩, ?_⟩
        exact Prod.ext named.trimBy_eq (unquote_eq_iff.mpr written)

theorem assignment?_eq_none_iff : assignment? line = none ↔ '=' ∉ line := by
  rw [assignment?, Option.map_eq_none_iff, Text.splitFirst_eq_none_iff]

/-- The key and value of a line with an equals sign. -/
theorem assignment?_cut (first : '=' ∉ left) (right : List Char) :
    assignment? (left ++ '=' :: right) = some (Text.trim left, unquote right) := by
  rw [assignment?, Text.splitFirst_eq_some_iff.mpr ⟨rfl, first⟩, Option.map_some]

theorem unquote_return (right : List Char) : unquote (right ++ ['\r']) = unquote right := by
  have blank : ∀ c ∈ ['\r'], Text.isBlank c := List.all_eq_true.mp (by decide)
  have same := Text.trimBy_wrap (List.forall_mem_nil _) blank right
  rw [unquote, unquote, Text.trim, Text.trim, ← same]
  rfl

/-- A carriage return at the end of a line is a blank of its value. -/
theorem assignment?_return (line : List Char) :
    assignment? (line ++ ['\r']) = assignment? line := by
  cases cut : Text.splitFirst '=' line with
  | none =>
      have absent := Text.splitFirst_eq_none_iff.mp cut
      rw [assignment?_eq_none_iff.mpr absent, assignment?_eq_none_iff]
      simpa using absent
  | some sides =>
      obtain ⟨left, right⟩ := sides
      obtain ⟨rfl, first⟩ := Text.splitFirst_eq_some_iff.mp cut
      rw [List.append_assoc, List.cons_append, assignment?_cut first, assignment?_cut first,
        unquote_return]

/-!
## Plain values and their spellings
-/

/-- A character that neither blanks nor quotes are cut away with. -/
def isPlain (c : Char) : Bool := !Text.isBlank c && c ≠ '\x22' && c ≠ '\x27'

/-- A value with no blank and no quote at its ends. -/
structure PlainEnds (value : List Char) : Prop where
  first : ∀ c ∈ value.head?, isPlain c
  last : ∀ c ∈ value.getLast?, isPlain c

/-- How a value may be spelled. -/
inductive Spells (value : List Char) : List Char → Prop where
  | bare : Spells value value
  | double : Spells value ('\x22' :: (value ++ ['\x22']))
  | single : Spells value ('\x27' :: (value ++ ['\x27']))

theorem PlainEnds.trimBy_eq {p : Char → Bool} (plain : PlainEnds value)
    (stays : ∀ c, isPlain c → p c = false) : Text.trimBy p value = value :=
  Text.trimBy_of_ends (fun c first => stays c (plain.first c first))
    fun c last => stays c (plain.last c last)

theorem trimBy_quoted {p : Char → Bool} {quote : Char} (stays : p quote = false)
    (value : List Char) :
    Text.trimBy p (quote :: (value ++ [quote])) = quote :: (value ++ [quote]) := by
  apply Text.trimBy_of_ends
  · intro c first
    cases first
    exact stays
  · intro c last
    rw [← List.cons_append, List.getLast?_concat] at last
    cases last
    exact stays

theorem trimBy_unquoted (quote : Char) (value : List Char) :
    Text.trimBy (· = quote) (quote :: (value ++ [quote])) = Text.trimBy (· = quote) value := by
  have goes : ∀ c ∈ [quote], decide (c = quote) = true := by simp
  exact Text.trimBy_wrap goes goes value

theorem unquote_of_spells {text : List Char} (plain : PlainEnds value) (spells : Spells value text) :
    unquote text = value := by
  have blanks : Text.trimBy Text.isBlank value = value :=
    plain.trimBy_eq fun c => by simp +contextual [isPlain]
  have doubles : Text.trimBy (· = '\x22') value = value :=
    plain.trimBy_eq fun c => by simp +contextual [isPlain]
  have singles : Text.trimBy (· = '\x27') value = value :=
    plain.trimBy_eq fun c => by simp +contextual [isPlain]
  rw [unquote, Text.trim]
  cases spells with
  | bare => rw [blanks, doubles, singles]
  | double => rw [trimBy_quoted (by decide), trimBy_unquoted, doubles, singles]
  | single => rw [trimBy_quoted (by decide), trimBy_quoted (by decide), trimBy_unquoted, singles]

/-!
## Values last assigned
-/

/-- The assignments of lines, in order. -/
def fieldsOf (lines : List (List Char)) : List (List Char × List Char) :=
  lines.filterMap assignment?

/-- The value that the last line with a key assigns to it. -/
def lastValue? (key : List Char) (lines : List (List Char)) : Option (List Char) :=
  (fieldsOf lines).reverse.lookup key

theorem lastValue?_append (key : List Char) (before after : List (List Char)) :
    lastValue? key (before ++ after) = (lastValue? key after).or (lastValue? key before) := by
  rw [lastValue?, fieldsOf, List.filterMap_append, List.reverse_append, List.lookup_append]
  rfl

theorem lastValue?_cons (key line : List Char) (rest : List (List Char)) :
    lastValue? key (line :: rest) = (lastValue? key rest).or (lastValue? key [line]) :=
  lastValue?_append key [line] rest

theorem lastValue?_singleton_eq_some_iff :
    lastValue? key [line] = some value ↔ Assigns line key value := by
  rw [← assignment?_eq_some_iff, lastValue?, fieldsOf, List.filterMap_cons]
  cases assignment? line with
  | none => simp
  | some field =>
      obtain ⟨name, given⟩ := field
      by_cases same : key = name
      · subst same
        simp
      · simp [same, Ne.symm same]

theorem lastValue?_singleton_eq_none_iff :
    lastValue? key [line] = none ↔ ∀ value, ¬ Assigns line key value := by
  rw [Option.eq_none_iff_forall_ne_some]
  simp only [ne_eq, lastValue?_singleton_eq_some_iff]

theorem lastValue?_eq_none_iff :
    lastValue? key lines = none ↔ ∀ line ∈ lines, ∀ value, ¬ Assigns line key value := by
  induction lines with
  | nil => simp [lastValue?, fieldsOf]
  | cons line lines ih =>
      rw [lastValue?_cons, Option.or_eq_none_iff, ih, lastValue?_singleton_eq_none_iff,
        List.forall_mem_cons]
      exact and_comm

/-- The value that lines give to a key: by the last line that assigns to it, and else empty. -/
inductive LastValue (lines : List (List Char)) (key : List Char) : List Char → Prop where
  | assigned {before after : List (List Char)} {line value : List Char}
      (cut : lines = before ++ line :: after) (assigns : Assigns line key value)
      (last : ∀ later ∈ after, ∀ other, ¬ Assigns later key other) : LastValue lines key value
  | absent (unassigned : ∀ line ∈ lines, ∀ other, ¬ Assigns line key other) :
      LastValue lines key []

theorem lastValue?_eq_some_iff :
    lastValue? key lines = some value ↔
      ∃ before line after, lines = before ++ line :: after ∧ Assigns line key value ∧
        ∀ later ∈ after, ∀ other, ¬ Assigns later key other := by
  constructor
  · intro found
    induction lines with
    | nil => cases found
    | cons line lines ih =>
        rw [lastValue?_cons, Option.or_eq_some_iff] at found
        rcases found with later | ⟨none_later, here⟩
        · obtain ⟨before, last, after, rfl, assigns, unassigned⟩ := ih later
          exact ⟨line :: before, last, after, rfl, assigns, unassigned⟩
        · exact ⟨[], line, lines, rfl, lastValue?_singleton_eq_some_iff.mp here,
            lastValue?_eq_none_iff.mp none_later⟩
  · intro found
    obtain ⟨before, line, after, rfl, assigns, unassigned⟩ := found
    rw [lastValue?_append, lastValue?_cons, lastValue?_eq_none_iff.mpr unassigned,
      lastValue?_singleton_eq_some_iff.mpr assigns]
    rfl

theorem lastValue_iff : LastValue lines key value ↔ (lastValue? key lines).getD [] = value := by
  constructor
  · intro last
    cases last with
    | assigned cut assigns unassigned =>
        rw [lastValue?_eq_some_iff.mpr ⟨_, _, _, cut, assigns, unassigned⟩, Option.getD_some]
    | absent unassigned => rw [lastValue?_eq_none_iff.mpr unassigned, Option.getD_none]
  · intro value_eq
    cases found : lastValue? key lines with
    | some given =>
        rw [found, Option.getD_some] at value_eq
        subst value_eq
        obtain ⟨before, line, after, cut, assigns, unassigned⟩ := lastValue?_eq_some_iff.mp found
        exact .assigned cut assigns unassigned
    | none =>
        rw [found, Option.getD_none] at value_eq
        subst value_eq
        exact .absent (lastValue?_eq_none_iff.mp found)

/-!
## Lines of a text
-/

/-- A text is made of these lines with line feeds between them. What follows the last line feed counts
as a line even if it is empty. -/
structure HasLines (content : String) (lines : List (List Char)) : Prop where
  nonempty : lines ≠ []
  unbroken : ∀ line ∈ lines, '\n' ∉ line
  joined : content.toList = ['\n'].intercalate lines

theorem hasLines_splitAll (content : String) :
    HasLines content (Text.splitAll '\n' content.toList) := by
  constructor
  case nonempty => exact Text.splitAll_ne_nil '\n' content.toList
  case unbroken => exact fun line member => Text.not_mem_of_mem_splitAll member
  case joined => exact (Text.intercalate_splitAll '\n' content.toList).symm

theorem HasLines.splitAll_eq {content : String} (made : HasLines content lines) :
    Text.splitAll '\n' content.toList = lines := by
  rw [made.joined, Text.splitAll_intercalate made.nonempty made.unbroken]

theorem assignment?_dropReturn (line : List Char) :
    assignment? (Text.dropReturn line) = assignment? line := by
  unfold Text.dropReturn
  split
  · next rest ended =>
    have text : line = rest.reverse ++ ['\r'] := by
      rw [← List.reverse_reverse line, ended, List.reverse_cons]
    rw [text, assignment?_return]
  · rfl

/-- A last line that is empty assigns nothing, and the carriage returns at the ends of the others are
blanks: what counts as a line makes no difference. -/
theorem fieldsOf_lines (pieces : List (List Char)) :
    fieldsOf (Text.lines.go pieces) = fieldsOf pieces := by
  induction pieces with
  | nil => rfl
  | cons piece pieces ih =>
      cases pieces with
      | nil =>
          rw [Text.lines.go]
          split
          · next empty =>
            cases List.isEmpty_iff.mp empty
            rfl
          · rfl
      | cons next pieces =>
          rw [Text.lines.go, fieldsOf, fieldsOf, List.filterMap_cons, List.filterMap_cons,
            assignment?_dropReturn]
          · unfold fieldsOf at ih
            rw [ih]
          · exact List.cons_ne_nil next pieces

theorem assignments_eq (content : List Char) :
    assignments content = fieldsOf (Text.splitAll '\n' content) :=
  fieldsOf_lines (Text.splitAll '\n' content)

/-- The release tag that the three values decide. -/
def tagOfValues (id versionId idLike : List Char) : Option OsVersion :=
  (release? versionId).bind fun release => tag? id (Text.words idLike) release

theorem HasLines.detect?_eq {content : String} (made : HasLines content lines) :
    detect? content =
      tagOfValues ((lastValue? "ID".toList lines).getD [])
        ((lastValue? "VERSION_ID".toList lines).getD [])
        ((lastValue? "ID_LIKE".toList lines).getD []) := by
  rw [detect?, assignments_eq, made.splitAll_eq]
  rfl

/-!
## Edits that change nothing
-/

/-- The keys whose values decide the release tag. -/
def decidingKeys : List (List Char) := ["ID".toList, "VERSION_ID".toList, "ID_LIKE".toList]

/-- One edit of the lines of a text. Undone, an insertion takes a line out, and the line is moved by
putting it in elsewhere afterwards. -/
inductive Edit : List (List Char) → List (List Char) → Prop where
  | insert {before after : List (List Char)} {line : List Char}
      (idle : ∀ key ∈ decidingKeys, ∀ value, ¬ Assigns line key value) :
      Edit (before ++ after) (before ++ line :: after)
  | swap {before after : List (List Char)} {first second : List Char}
      (apart : ∀ key value other, Assigns first key value → ¬ Assigns second key other) :
      Edit (before ++ first :: second :: after) (before ++ second :: first :: after)
  | endWithReturn {before after : List (List Char)} {line : List Char} :
      Edit (before ++ line :: after) (before ++ (line ++ ['\r']) :: after)
  | respell {before after : List (List Char)} {left value text text' : List Char}
      (first : '=' ∉ left) (plain : PlainEnds value) (spells : Spells value text)
      (spells' : Spells value text') :
      Edit (before ++ (left ++ '=' :: text) :: after) (before ++ (left ++ '=' :: text') :: after)

theorem lastValue?_congr {line' : List Char} (same : assignment? line = assignment? line')
    (key : List Char) (before after : List (List Char)) :
    lastValue? key (before ++ line :: after) = lastValue? key (before ++ line' :: after) := by
  simp only [lastValue?, fieldsOf, List.filterMap_append, List.filterMap_cons, same]

theorem Edit.lastValue?_eq {lines' : List (List Char)} (edit : Edit lines lines')
    (deciding : key ∈ decidingKeys) : lastValue? key lines = lastValue? key lines' := by
  cases edit with
  | insert idle =>
      have unassigned := lastValue?_singleton_eq_none_iff.mpr (idle key deciding)
      rw [lastValue?_append, lastValue?_append, lastValue?_cons, unassigned, Option.or_none]
  | @swap before after first second apart =>
      have adjacent (left right : List Char) :
          lastValue? key (before ++ left :: right :: after) =
            ((lastValue? key after).or ((lastValue? key [right]).or (lastValue? key [left]))).or
              (lastValue? key before) := by
        rw [lastValue?_append, lastValue?_cons key left, lastValue?_cons key right]
        simp only [Option.or_assoc]
      rw [adjacent, adjacent]
      -- At most one of the two lines assigns to the key.
      cases found : lastValue? key [first] with
      | none => rw [Option.or_none, Option.none_or]
      | some value =>
          have assigns := lastValue?_singleton_eq_some_iff.mp found
          have unassigned : lastValue? key [second] = none :=
            lastValue?_singleton_eq_none_iff.mpr fun other => apart key value other assigns
          rw [unassigned, Option.none_or, Option.or_none]
  | endWithReturn => exact lastValue?_congr (assignment?_return _).symm key _ _
  | respell first plain spells spells' =>
      refine lastValue?_congr ?_ key _ _
      rw [assignment?_cut first, assignment?_cut first, unquote_of_spells plain spells,
        unquote_of_spells plain spells']

theorem lastValue?_of_edits {lines' : List (List Char)} (edits : Relation.EqvGen Edit lines lines')
    (deciding : key ∈ decidingKeys) : lastValue? key lines = lastValue? key lines' := by
  induction edits with
  | rel _ _ edit => exact edit.lastValue?_eq deciding
  | refl => rfl
  | symm _ _ _ ih => exact ih.symm
  | trans _ _ _ _ _ first second => exact first.trans second

theorem detect?_congr {content content' : String} {lines' : List (List Char)}
    (made : HasLines content lines) (made' : HasLines content' lines')
    (same : ∀ key ∈ decidingKeys, lastValue? key lines = lastValue? key lines') :
    detect? content' = detect? content := by
  simp only [decidingKeys, List.forall_mem_cons] at same
  obtain ⟨id, versionId, idLike, -⟩ := same
  rw [made.detect?_eq, made'.detect?_eq, id, versionId, idLike]

/-!
## Carriage returns at all lines
-/

/-- The lines with a carriage return at the end of each but the last. -/
def withReturns : List (List Char) → List (List Char)
  | [] => []
  | [last] => [last]
  | line :: next :: rest => (line ++ ['\r']) :: withReturns (next :: rest)

theorem fieldsOf_withReturns (lines : List (List Char)) :
    fieldsOf (withReturns lines) = fieldsOf lines := by
  induction lines with
  | nil => rfl
  | cons line lines ih =>
      cases lines with
      | nil => rfl
      | cons next lines =>
          unfold fieldsOf at ih ⊢
          rw [withReturns, List.filterMap_cons, List.filterMap_cons, assignment?_return, ih]

theorem intercalate_withReturns (lines : List (List Char)) :
    ['\n'].intercalate (withReturns lines) = ['\r', '\n'].intercalate lines := by
  induction lines with
  | nil => rfl
  | cons line lines ih =>
      cases lines with
      | nil => rfl
      | cons next lines =>
          have filled : withReturns (next :: lines) ≠ [] := by
            cases lines <;> exact List.cons_ne_nil _ _
          obtain ⟨piece, pieces, cut⟩ := List.exists_cons_of_ne_nil filled
          rw [withReturns, cut, List.intercalate_cons_cons, ← cut, ih, List.intercalate_cons_cons]
          simp only [List.append_assoc, List.cons_append, List.nil_append]

theorem not_mem_of_mem_withReturns (unbroken : ∀ line ∈ lines, '\n' ∉ line) :
    ∀ line ∈ withReturns lines, '\n' ∉ line := by
  induction lines with
  | nil => exact unbroken
  | cons line lines ih =>
      cases lines with
      | nil => exact unbroken
      | cons next lines =>
          obtain ⟨here, later⟩ := List.forall_mem_cons.mp unbroken
          have returned : '\n' ∉ line ++ ['\r'] := by simpa using here
          exact List.forall_mem_cons.mpr ⟨returned, ih later⟩

theorem HasLines.withReturns {content other : String} (made : HasLines content lines)
    (returned : other.toList = ['\r', '\n'].intercalate lines) :
    HasLines other (withReturns lines) := by
  constructor
  case nonempty =>
    obtain ⟨line, rest, rfl⟩ := List.exists_cons_of_ne_nil made.nonempty
    cases rest <;> exact List.cons_ne_nil _ _
  case unbroken => exact not_mem_of_mem_withReturns made.unbroken
  case joined => rw [returned, intercalate_withReturns]

/-!
## What decides the release tag
-/

/-- The lines of a text decide its release tag by the values that they last assign. -/
structure DecidedByLastLines (content : String) (lines : List (List Char)) : Prop where
  made : HasLines content lines
  no_other_lines : ∀ others, HasLines content others → others = lines
  one_value : ∀ key, ∃! value, LastValue lines key value
  decided : ∀ id versionId idLike, LastValue lines "ID".toList id →
    LastValue lines "VERSION_ID".toList versionId → LastValue lines "ID_LIKE".toList idLike →
      detect? content = tagOfValues id versionId idLike
  edited : ∀ other others, HasLines other others → Relation.EqvGen Edit lines others →
    detect? other = detect? content
  returned : ∀ other : String, other.toList = ['\r', '\n'].intercalate lines →
    detect? other = detect? content
  on_linux : ∀ tag, detect? content = some tag → tag.os = .linux

theorem exists_decidedByLastLines (content : String) :
    ∃ lines, DecidedByLastLines content lines := by
  have made := hasLines_splitAll content
  generalize Text.splitAll '\n' content.toList = lines at made
  refine ⟨lines, ?_⟩
  constructor
  case made => exact made
  case no_other_lines => exact fun others made' => made'.splitAll_eq.symm.trans made.splitAll_eq
  case one_value =>
    intro key
    refine ⟨(lastValue? key lines).getD [], lastValue_iff.mpr rfl, ?_⟩
    exact fun value last => (lastValue_iff.mp last).symm
  case decided =>
    intro id versionId idLike ofId ofVersionId ofIdLike
    rw [made.detect?_eq, lastValue_iff.mp ofId, lastValue_iff.mp ofVersionId,
      lastValue_iff.mp ofIdLike]
  case edited =>
    intro other others made' edits
    exact detect?_congr made made' fun key deciding => lastValue?_of_edits edits deciding
  case returned =>
    intro other returned
    refine detect?_congr made (made.withReturns returned) fun key _ => ?_
    rw [lastValue?, lastValue?, fieldsOf_withReturns]
  case on_linux => exact onLinux_detect? content

/-- The last line for a key wins, its value goes on after its first equals sign, and quotes of both
kinds are taken off. -/
example :
    detect? "ID=arch\n# ID=debian\n ID\t=\x22'ubuntu'\x22\r\nVERSION_ID=22.04" = some .ubuntu2204 ∧
      detect? "ID=ubuntu\nVERSION_ID=22.04\nVERSION_ID=22.04=x" = some .ubuntu2004 := by
  decide +kernel

end ThrowawayServer.OsRelease
