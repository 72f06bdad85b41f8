import Mathlib.Data.List.Forall2
import ThrowawayServer.Proofs.Text.Cutting
import ThrowawayServer.Proofs.Text.Numeral
import ThrowawayServer.Version.Basic

/-!
# The grammar of versions

A numbered version is a core of two or three numerals with dots between them, and a suffix after a
hyphen or none. `Numbered` says so without cutting a text into pieces; the reader cuts at the first
hyphen and at every dot and accepts exactly these texts. What is left of an input between its blanks
decides alone what the input is read as.
-/

set_option autoImplicit false

namespace ThrowawayServer

namespace Version

variable {text core suffix : List Char} {numeric : NumericVersion}

/-- Two or three numerals of words with dots between them; a patch that is left out is zero. -/
inductive Core : List Char → NumericVersion → Prop where
  | pair {major minor : List Char} {m n : UInt32} (first : Text.Numeral major m.toNat)
      (second : Text.Numeral minor n.toNat) : Core (major ++ '.' :: minor) ⟨m, n, 0⟩
  | triple {major minor patch : List Char} {m n p : UInt32} (first : Text.Numeral major m.toNat)
      (second : Text.Numeral minor n.toNat) (third : Text.Numeral patch p.toNat) :
      Core (major ++ '.' :: (minor ++ '.' :: patch)) ⟨m, n, p⟩

/-- A core by itself, or with a suffix after a hyphen. -/
inductive Numbered : List Char → NumericVersion → Prop where
  | plain {core : List Char} {numeric : NumericVersion} (read : Core core numeric) :
      Numbered core numeric
  | suffixed {core suffix : List Char} {numeric : NumericVersion} (read : Core core numeric)
      (nonempty : suffix ≠ []) (chars : ∀ c ∈ suffix, isSuffixChar c) :
      Numbered (core ++ '-' :: suffix) numeric

/-!
## Cores
-/

/-- Reading the items of a list one by one. -/
theorem mapM_eq_some_iff {α β : Type} {read : α → Option β} {items : List α} {values : List β} :
    items.mapM read = some values ↔
      List.Forall₂ (fun item value => read item = some value) items values := by
  induction items generalizing values with
  | nil => simp [eq_comm]
  | cons first rest ih =>
      rw [List.mapM_cons, List.forall₂_cons_left_iff]
      cases head : read first with
      | none => simp
      | some value =>
          cases tail : rest.mapM read with
          | none => simp [← ih, tail]
          | some others => simp [← ih, tail, eq_comm]

namespace Core

theorem char (read : Core core numeric) : ∀ c ∈ core, c.isDigit ∨ c = '+' ∨ c = '.' := by
  have of_numeral {text : List Char} {value : Nat} (numeral : Text.Numeral text value) :
      ∀ c ∈ text, c.isDigit ∨ c = '+' ∨ c = '.' :=
    fun c member => (numeral.char c member).imp_right .inl
  cases read with
  | pair first second =>
      simp only [List.forall_mem_append, List.forall_mem_cons]
      exact ⟨of_numeral first, by simp, of_numeral second⟩
  | triple first second third =>
      simp only [List.forall_mem_append, List.forall_mem_cons]
      exact ⟨of_numeral first, by simp, of_numeral second, by simp, of_numeral third⟩

theorem not_mem {c : Char} (read : Core core numeric) (noDigit : c.isDigit = false)
    (noSign : c ≠ '+') (noDot : c ≠ '.') : c ∉ core := by
  intro member
  rcases read.char c member with digit | sign | dot
  · exact Bool.false_ne_true (noDigit.symm.trans digit)
  · exact noSign sign
  · exact noDot dot

theorem hyphen_not_mem (read : Core core numeric) : '-' ∉ core :=
  read.not_mem rfl (by decide) (by decide)

theorem not_blank (read : Core core numeric) : ∀ c ∈ core, Text.isBlank c = false := by
  intro c member
  rcases read.char c member with digit | rfl | rfl
  · exact Text.isBlank_of_isDigit digit
  · rfl
  · rfl

theorem dot_mem (read : Core core numeric) : '.' ∈ core := by
  cases read <;> simp

end Core

theorem words_eq_some_iff {parts : List (List Char)} {words : List UInt32} :
    (parts.mapM fun part => (Text.readUInt32 part).toOption) = some words ↔
      List.Forall₂ (fun part word => Text.Numeral part word.toNat) parts words := by
  have read_iff (part : List Char) (word : UInt32) :
      (Text.readUInt32 part).toOption = some word ↔ Text.Numeral part word.toNat := by
    rw [← Text.readUInt32_eq_ok_iff]
    cases Text.readUInt32 part <;> simp [Except.toOption]
  simp only [mapM_eq_some_iff, read_iff]

theorem readCore?_eq_some_iff : readCore? core = some numeric ↔ Core core numeric := by
  constructor
  · intro read
    have joined := Text.intercalate_splitAll '.' core
    unfold readCore? at read
    generalize Text.splitAll '.' core = parts at read joined
    split at read
    · next major minor words =>
      cases read
      rcases words_eq_some_iff.mp words with _ | ⟨first, _ | ⟨second, _ | _⟩⟩
      simp only [List.intercalate_cons_cons, List.intercalate_singleton, List.append_assoc,
        List.singleton_append] at joined
      rw [← joined]
      exact .pair first second
    · next major minor patch words =>
      cases read
      rcases words_eq_some_iff.mp words with _ | ⟨first, _ | ⟨second, _ | ⟨third, _ | _⟩⟩⟩
      simp only [List.intercalate_cons_cons, List.intercalate_singleton, List.append_assoc,
        List.singleton_append] at joined
      rw [← joined]
      exact .triple first second third
    · cases read
  · intro read
    unfold readCore?
    cases read with
    | pair first second =>
        have words := words_eq_some_iff.mpr (.cons first (.cons second .nil))
        rw [Text.splitAll_append, Text.splitAll_of_not_mem (first.not_mem rfl (by decide)),
          Text.splitAll_of_not_mem (second.not_mem rfl (by decide)), List.singleton_append, words]
    | triple first second third =>
        have words := words_eq_some_iff.mpr (.cons first (.cons second (.cons third .nil)))
        rw [Text.splitAll_append, Text.splitAll_append,
          Text.splitAll_of_not_mem (first.not_mem rfl (by decide)),
          Text.splitAll_of_not_mem (second.not_mem rfl (by decide)),
          Text.splitAll_of_not_mem (third.not_mem rfl (by decide)), List.singleton_append,
          List.singleton_append, words]

/-!
## Numbered versions
-/

theorem readNumeric?_eq_some_iff : readNumeric? text = some numeric ↔ Numbered text numeric := by
  constructor
  · intro read
    unfold readNumeric? at read
    split at read
    · exact .plain (readCore?_eq_some_iff.mp read)
    · next core suffix cut =>
      obtain ⟨rfl, -⟩ := Text.splitFirst_eq_some_iff.mp cut
      split at read
      · next valid =>
        simp only [Bool.and_eq_true, Bool.not_eq_true', List.isEmpty_eq_false_iff,
          List.all_eq_true] at valid
        exact .suffixed (readCore?_eq_some_iff.mp read) valid.1 valid.2
      · cases read
  · intro numbered
    unfold readNumeric?
    cases numbered with
    | plain read =>
        rw [Text.splitFirst_eq_none_iff.mpr read.hyphen_not_mem]
        exact readCore?_eq_some_iff.mpr read
    | @suffixed core suffix _ read nonempty chars =>
        have valid : (!suffix.isEmpty && suffix.all isSuffixChar) = true := by
          simpa [nonempty] using chars
        rw [Text.splitFirst_eq_some_iff.mpr ⟨rfl, read.hyphen_not_mem⟩]
        dsimp only
        rw [if_pos valid]
        exact readCore?_eq_some_iff.mpr read

/-- The word for the rolling build, in letters of any case. -/
abbrev IsLatestWord (text : List Char) : Prop := text.map Char.toLower = "latest".toList

theorem IsLatestWord.nonempty (word : IsLatestWord text) : text ≠ [] := by
  rintro rfl
  cases word

theorem Numbered.dot_mem (numbered : Numbered text numeric) : '.' ∈ text := by
  cases numbered with
  | plain read => exact read.dot_mem
  | suffixed read => exact List.mem_append_left _ read.dot_mem

theorem Numbered.nonempty (numbered : Numbered text numeric) : text ≠ [] :=
  List.ne_nil_of_mem numbered.dot_mem

theorem Numbered.not_latest (numbered : Numbered text numeric) : ¬ IsLatestWord text := by
  intro word
  have lower : Char.toLower '.' ∈ "latest".toList := word ▸ List.mem_map_of_mem numbered.dot_mem
  exact absurd lower (by decide)

/-- What a text without blanks at its ends is read as. -/
inductive ReadAs : List Char → Except VersionError Version → Prop where
  | empty : ReadAs [] (.error .empty)
  | latest {text : List Char} (word : IsLatestWord text) : ReadAs text (.ok .latest)
  | numbered {text : List Char} {numeric : NumericVersion} (numbered : Numbered text numeric) :
      ReadAs text (.ok ⟨String.ofList text, numeric⟩)
  | malformed {text : List Char} (nonempty : text ≠ []) (noWord : ¬ IsLatestWord text)
      (unnumbered : ∀ numeric, ¬ Numbered text numeric) :
      ReadAs text (.error (.malformed (String.ofList text)))

namespace ReadAs

variable {version : Version} {reported : String}

theorem empty_iff : ReadAs text (.error .empty) ↔ text = [] := by
  constructor
  · intro read
    cases read
    rfl
  · rintro rfl
    exact .empty

theorem ok_iff :
    ReadAs text (.ok version) ↔
      IsLatestWord text ∧ version = .latest ∨
        Numbered text version.numeric ∧ version.canonical = String.ofList text := by
  constructor
  · intro read
    cases read with
    | latest word => exact .inl ⟨word, rfl⟩
    | numbered numbered => exact .inr ⟨numbered, rfl⟩
  · rintro (⟨word, rfl⟩ | ⟨numbered, canonical⟩)
    · exact .latest word
    · cases version
      cases canonical
      exact .numbered numbered

theorem latest_iff : ReadAs text (.ok .latest) ↔ IsLatestWord text := by
  rw [ok_iff]
  constructor
  · rintro (⟨word, -⟩ | ⟨numbered, canonical⟩)
    · exact word
    -- A numbered version is never spelled like the rolling build.
    · have spelled : text = "latest".toList := String.ofList_inj.mp canonical.symm
      exact absurd (spelled ▸ rfl) numbered.not_latest
  · exact fun word => .inl ⟨word, rfl⟩

theorem malformed_iff :
    ReadAs text (.error (.malformed reported)) ↔
      reported = String.ofList text ∧ text ≠ [] ∧ ¬ IsLatestWord text ∧
        ∀ numeric, ¬ Numbered text numeric := by
  constructor
  · intro read
    cases read with
    | malformed nonempty noWord unnumbered => exact ⟨rfl, nonempty, noWord, unnumbered⟩
  · rintro ⟨rfl, nonempty, noWord, unnumbered⟩
    exact .malformed nonempty noWord unnumbered

end ReadAs

theorem readAs_ofTrimmed (text : List Char) : ReadAs text (ofTrimmed text) := by
  unfold ofTrimmed
  split
  · next empty =>
    cases List.isEmpty_iff.mp empty
    exact .empty
  · next nonempty =>
    split
    · next word => exact .latest word
    · next noWord =>
      split
      · next numeric read => exact .numbered (readNumeric?_eq_some_iff.mp read)
      · next unread =>
        refine .malformed (fun empty => nonempty (List.isEmpty_iff.mpr empty)) noWord ?_
        intro numeric numbered
        rw [readNumeric?_eq_some_iff.mpr numbered] at unread
        cases unread

theorem ofTrimmed_eq_of_readAs {answer : Except VersionError Version} (read : ReadAs text answer) :
    ofTrimmed text = answer := by
  have filled (nonempty : text ≠ []) : ¬ text.isEmpty = true :=
    fun empty => nonempty (List.isEmpty_iff.mp empty)
  rw [ofTrimmed]
  cases read with
  | empty => rfl
  | latest word => rw [if_neg (filled word.nonempty), if_pos word]
  | numbered numbered =>
      rw [if_neg (filled numbered.nonempty), if_neg numbered.not_latest,
        readNumeric?_eq_some_iff.mpr numbered]
  | malformed nonempty noWord unnumbered =>
      have unread : readNumeric? text = none := by
        rw [Option.eq_none_iff_forall_ne_some]
        exact fun numeric read => unnumbered numeric (readNumeric?_eq_some_iff.mp read)
      rw [if_neg (filled nonempty), if_neg noWord, unread]

theorem parse_eq_iff {input : String} {answer : Except VersionError Version} :
    parse input = answer ↔ ReadAs (Text.trim input.toList) answer := by
  constructor
  · rintro rfl
    exact readAs_ofTrimmed _
  · exact ofTrimmed_eq_of_readAs

/-- What an input is read as, by what is left of it between its blanks. -/
structure ReadByGrammar (input : String) (text : List Char) : Prop where
  trimmed : Text.TrimmedTo Text.isBlank input.toList text
  empty_iff : parse input = .error .empty ↔ text = []
  latest_iff : parse input = .ok .latest ↔ IsLatestWord text
  accepted_iff : ∀ version, parse input = .ok version ↔
    IsLatestWord text ∧ version = .latest ∨
      Numbered text version.numeric ∧ version.canonical = String.ofList text
  malformed_iff : ∀ reported, parse input = .error (.malformed reported) ↔
    reported = String.ofList text ∧ text ≠ [] ∧ ¬ IsLatestWord text ∧
      ∀ numeric, ¬ Numbered text numeric

theorem parse_readByGrammar (input : String) :
    ReadByGrammar input (Text.trim input.toList) := by
  constructor
  case trimmed => exact Text.trimmedTo_trimBy Text.isBlank input.toList
  case empty_iff => rw [parse_eq_iff, ReadAs.empty_iff]
  case latest_iff => rw [parse_eq_iff, ReadAs.latest_iff]
  case accepted_iff =>
    intro version
    rw [parse_eq_iff, ReadAs.ok_iff]
  case malformed_iff =>
    intro reported
    rw [parse_eq_iff, ReadAs.malformed_iff]

/-- The greatest word is still read, the next number is not, and a core has two numerals at least. -/
example :
    parse "\u2003+04.4294967295-rc.1 " = .ok ⟨"+04.4294967295-rc.1", ⟨4, 4294967295, 0⟩⟩ ∧
      parse "4.4294967296" = .error (.malformed "4.4294967296") ∧
        parse "4-rc.1" = .error (.malformed "4-rc.1") := by
  decide +kernel

end Version

end ThrowawayServer
