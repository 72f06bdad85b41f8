import Mathlib.Data.List.Infix
import Mathlib.Data.List.TakeWhile
import ThrowawayServer.Text.Blank
import ThrowawayServer.Text.Split

/-!
# What cutting keeps

A text is the join of its pieces, so cutting a join gives the pieces of both sides, and a text
without the mark is its own piece. What is trimmed away stands at the ends of a text, so that
trimming depends on what is left alone.
-/

set_option autoImplicit false

namespace ThrowawayServer.Text

variable {mark c : Char} {text before after : List Char}

/-!
## Pieces between marks
-/

theorem splitAll_ne_nil (mark : Char) (text : List Char) : splitAll mark text ≠ [] := by
  cases text with
  | nil => exact List.cons_ne_nil _ _
  | cons c rest =>
      rw [splitAll]
      split
      · exact List.cons_ne_nil _ _
      · split <;> exact List.cons_ne_nil _ _

theorem splitAll_mark (mark : Char) (rest : List Char) :
    splitAll mark (mark :: rest) = [] :: splitAll mark rest := by
  rw [splitAll, if_pos rfl]

theorem splitAll_cons (different : c ≠ mark) (rest : List Char) :
    splitAll mark (c :: rest) = (splitAll mark rest).modifyHead (c :: ·) := by
  rw [splitAll, if_neg different]
  cases pieces : splitAll mark rest with
  | nil => exact absurd pieces (splitAll_ne_nil mark rest)
  | cons piece pieces => rfl

theorem splitAll_of_not_mem (absent : mark ∉ text) : splitAll mark text = [text] := by
  induction text with
  | nil => rfl
  | cons c rest ih =>
      obtain ⟨different, absent⟩ := List.ne_and_not_mem_of_not_mem_cons absent
      rw [splitAll_cons different.symm, ih absent]
      rfl

theorem splitAll_append (mark : Char) (before after : List Char) :
    splitAll mark (before ++ mark :: after) = splitAll mark before ++ splitAll mark after := by
  induction before with
  | nil => exact splitAll_mark mark after
  | cons c rest ih =>
      by_cases same : c = mark
      · subst same
        rw [List.cons_append, splitAll_mark, splitAll_mark, ih]
        rfl
      · obtain ⟨piece, pieces, cut⟩ := List.exists_cons_of_ne_nil (splitAll_ne_nil mark rest)
        rw [List.cons_append, splitAll_cons same, splitAll_cons same, ih, cut]
        rfl

/-- Only the marks are lost. -/
theorem flatten_splitAll (mark : Char) (text : List Char) :
    (splitAll mark text).flatten = text.filter (· ≠ mark) := by
  induction text with
  | nil => rfl
  | cons c rest ih =>
      by_cases same : c = mark
      · subst same
        simpa [splitAll_mark] using ih
      · obtain ⟨piece, pieces, cut⟩ := List.exists_cons_of_ne_nil (splitAll_ne_nil mark rest)
        rw [splitAll_cons same, cut, List.modifyHead_cons, List.flatten_cons, List.cons_append,
          ← List.flatten_cons, ← cut, ih, List.filter_cons_of_pos (by simpa using same)]

theorem intercalate_splitAll (mark : Char) (text : List Char) :
    [mark].intercalate (splitAll mark text) = text := by
  induction text with
  | nil => rfl
  | cons c rest ih =>
      obtain ⟨piece, pieces, cut⟩ := List.exists_cons_of_ne_nil (splitAll_ne_nil mark rest)
      by_cases same : c = mark
      · subst same
        rw [splitAll_mark, cut, List.intercalate_cons_cons, ← cut, ih]
        rfl
      · rw [cut] at ih
        rw [splitAll_cons same, cut, List.modifyHead_cons]
        cases pieces with
        | nil => simpa using ih
        | cons next pieces =>
            rw [List.intercalate_cons_cons] at ih ⊢
            rw [List.cons_append, List.cons_append, ih]

theorem splitAll_injective (mark : Char) : Function.Injective (splitAll mark) := by
  intro left right same
  rw [← intercalate_splitAll mark left, same, intercalate_splitAll]

/-- Pieces without the mark are what their join is cut into. -/
theorem splitAll_intercalate {pieces : List (List Char)} (filled : pieces ≠ [])
    (absent : ∀ piece ∈ pieces, mark ∉ piece) :
    splitAll mark ([mark].intercalate pieces) = pieces := by
  induction pieces with
  | nil => exact absurd rfl filled
  | cons piece pieces ih =>
      have whole : splitAll mark piece = [piece] :=
        splitAll_of_not_mem (absent piece List.mem_cons_self)
      cases pieces with
      | nil => rw [List.intercalate_singleton, whole]
      | cons next pieces =>
          have rest := ih (List.cons_ne_nil next pieces)
            fun piece member => absent piece (List.mem_cons_of_mem _ member)
          rw [List.intercalate_cons_cons, List.append_assoc, List.singleton_append,
            splitAll_append, whole, rest]
          rfl

theorem not_mem_of_mem_splitAll {piece : List Char} (member : piece ∈ splitAll mark text) :
    mark ∉ piece := by
  intro inside
  have kept : mark ∈ (splitAll mark text).flatten := List.mem_flatten.mpr ⟨piece, member, inside⟩
  rw [flatten_splitAll] at kept
  simpa using (List.mem_filter.mp kept).2

theorem splitFirst_eq_some_iff :
    splitFirst mark text = some (before, after) ↔
      text = before ++ mark :: after ∧ mark ∉ before := by
  induction text generalizing before with
  | nil => simp [splitFirst]
  | cons c rest ih =>
      by_cases same : c = mark
      · subst same
        cases before with
        | nil => simp [splitFirst, eq_comm]
        | cons first before =>
            simp only [splitFirst, if_true, List.cons_append, List.cons.injEq, List.mem_cons]
            constructor
            · intro found
              cases found
            · rintro ⟨⟨rfl, -⟩, absent⟩
              exact absurd (.inl rfl) absent
      · cases before with
        | nil => simp [splitFirst, same]
        | cons first before =>
            rw [splitFirst, if_neg same, Option.map_eq_some_iff]
            constructor
            · rintro ⟨⟨start, rest'⟩, found, cut⟩
              cases cut
              obtain ⟨rfl, absent⟩ := ih.mp found
              exact ⟨rfl, List.not_mem_cons_of_ne_of_not_mem (Ne.symm same) absent⟩
            · rintro ⟨joined, absent⟩
              cases joined
              exact ⟨(before, after), ih.mpr ⟨rfl, List.not_mem_of_not_mem_cons absent⟩, rfl⟩

theorem splitFirst_eq_none_iff : splitFirst mark text = none ↔ mark ∉ text := by
  induction text with
  | nil => simp [splitFirst]
  | cons c rest ih =>
      by_cases same : c = mark
      · simp [splitFirst, same]
      · rw [splitFirst, if_neg same, Option.map_eq_none_iff, ih, List.mem_cons, not_or]
        exact (and_iff_right (Ne.symm same)).symm

/-!
## Known starts and endings
-/

theorem stripStart?_append (start text : List Char) :
    stripStart? start (start ++ text) = some text := by
  induction start with
  | nil => rfl
  | cons c start ih => rw [List.cons_append, stripStart?, if_pos rfl, ih]

theorem stripEnd?_append (text ending : List Char) :
    stripEnd? ending (text ++ ending) = some text := by
  rw [stripEnd?, List.reverse_append, stripStart?_append, Option.map_some, List.reverse_reverse]

theorem trimStartBy_of_head {p : Char → Bool} (stays : ∀ c ∈ text.head?, p c = false) :
    trimStartBy p text = text := by
  cases text with
  | nil => rfl
  | cons c rest => exact List.dropWhile_cons_of_neg (by simp [stays c rfl])

theorem trimEndBy_of_last {p : Char → Bool} (stays : ∀ c ∈ text.getLast?, p c = false) :
    trimEndBy p text = text := by
  rw [← List.head?_reverse] at stays
  have untouched : text.reverse.dropWhile p = text.reverse := trimStartBy_of_head stays
  rw [trimEndBy, untouched, List.reverse_reverse]

theorem trimBy_of_ends {p : Char → Bool} (first : ∀ c ∈ text.head?, p c = false)
    (last : ∀ c ∈ text.getLast?, p c = false) : trimBy p text = text := by
  rw [trimBy, trimStartBy_of_head first, trimEndBy_of_last last]

/-- `core` is what is left of a text between the characters at its ends that satisfy `p`. -/
structure TrimmedTo (p : Char → Bool) (text core : List Char) : Prop where
  cut : ∃ before after, text = before ++ (core ++ after) ∧ (∀ c ∈ before, p c) ∧ ∀ c ∈ after, p c
  first_stays : ∀ c ∈ core.head?, p c = false
  last_stays : ∀ c ∈ core.getLast?, p c = false

theorem dropWhile_head_stays (p : Char → Bool) (text : List Char) :
    ∀ c ∈ (text.dropWhile p).head?, p c = false := by
  intro c first
  have stays := List.head?_dropWhile_not p text
  rw [Option.mem_def.mp first] at stays
  exact stays

theorem trimmedTo_trimBy (p : Char → Bool) (text : List Char) :
    TrimmedTo p text (trimBy p text) := by
  let before := text.takeWhile p
  let after := ((trimStartBy p text).reverse.takeWhile p).reverse
  have start_cut : before ++ trimStartBy p text = text := List.takeWhile_append_dropWhile
  have end_cut : trimBy p text ++ after = trimStartBy p text := by
    rw [trimBy, trimEndBy, ← List.reverse_append, List.takeWhile_append_dropWhile,
      List.reverse_reverse]
  constructor
  case cut =>
    refine ⟨before, after, ?_, fun c member => List.mem_takeWhile_imp member, fun c member => ?_⟩
    · rw [end_cut, start_cut]
    · exact List.mem_takeWhile_imp (List.mem_reverse.mp member)
  case first_stays =>
    -- What is cut away behind does not touch the first character.
    intro c first
    apply dropWhile_head_stays p text c
    rw [← trimStartBy, ← end_cut, List.head?_append, Option.mem_def.mp first]
    rfl
  case last_stays =>
    rw [trimBy, trimEndBy, List.getLast?_reverse]
    exact dropWhile_head_stays p _

theorem trimStartBy_append {p : Char → Bool} (front : ∀ c ∈ before, p c) (text : List Char) :
    trimStartBy p (before ++ text) = trimStartBy p text :=
  List.dropWhile_append_of_pos front

theorem trimEndBy_append {p : Char → Bool} (back : ∀ c ∈ after, p c) (text : List Char) :
    trimEndBy p (text ++ after) = trimEndBy p text := by
  have back_reverse : ∀ c ∈ after.reverse, p c := fun c member => back c (List.mem_reverse.mp member)
  rw [trimEndBy, trimEndBy, List.reverse_append, List.dropWhile_append_of_pos back_reverse]

theorem TrimmedTo.trimBy_eq {p : Char → Bool} {core : List Char} (trimmed : TrimmedTo p text core) :
    trimBy p text = core := by
  obtain ⟨⟨before, after, rfl, front, back⟩, first_stays, last_stays⟩ := trimmed
  rw [trimBy, trimStartBy_append front]
  cases core with
  | nil =>
      rw [List.nil_append, trimStartBy, List.dropWhile_eq_nil_iff.mpr back]
      rfl
  | cons c core =>
      have untouched : trimStartBy p (c :: core ++ after) = c :: core ++ after :=
        trimStartBy_of_head first_stays
      rw [untouched, trimEndBy_append back, trimEndBy_of_last last_stays]

theorem trimBy_eq_iff {p : Char → Bool} {core : List Char} :
    trimBy p text = core ↔ TrimmedTo p text core := by
  constructor
  · rintro rfl
    exact trimmedTo_trimBy p text
  · exact TrimmedTo.trimBy_eq

/-- Characters to be trimmed may be put on either side. -/
theorem trimBy_wrap {p : Char → Bool} {front back : List Char} (front_goes : ∀ c ∈ front, p c)
    (back_goes : ∀ c ∈ back, p c) (text : List Char) :
    trimBy p (front ++ (text ++ back)) = trimBy p text := by
  obtain ⟨⟨before, after, cut, before_goes, after_goes⟩, first_stays, last_stays⟩ :=
    trimmedTo_trimBy p text
  have trimmed : TrimmedTo p (front ++ (text ++ back)) (trimBy p text) := by
    constructor
    case cut =>
      refine ⟨front ++ before, after ++ back, ?_, ?_, ?_⟩
      · conv_lhs => rw [cut]
        simp only [List.append_assoc]
      · exact List.forall_mem_append.mpr ⟨front_goes, before_goes⟩
      · exact List.forall_mem_append.mpr ⟨after_goes, back_goes⟩
    case first_stays => exact first_stays
    case last_stays => exact last_stays
  exact trimmed.trimBy_eq

theorem trimBy_trimBy (p : Char → Bool) (text : List Char) :
    trimBy p (trimBy p text) = trimBy p text :=
  have trimmed := trimmedTo_trimBy p text
  trimBy_of_ends trimmed.first_stays trimmed.last_stays

theorem isBlank_of_isDigit (digit : c.isDigit) : isBlank c = false := by
  have range : 48 ≤ c.toNat ∧ c.toNat ≤ 57 := Char.isDigit_iff_toNat.mp digit
  rw [Bool.eq_false_iff]
  simp only [isBlank, ne_eq, Bool.or_eq_true, Bool.and_eq_true, decide_eq_true_eq, beq_iff_eq]
  omega

theorem trimBy_eq_nil_iff {p : Char → Bool} : trimBy p text = [] ↔ ∀ c ∈ text, p c := by
  rw [← List.dropWhile_eq_nil_iff, trimBy, trimEndBy, trimStartBy, List.reverse_eq_nil_iff,
    List.dropWhile_eq_nil_iff]
  constructor
  · intro blank
    by_contra left
    -- What is left begins with a character that does not satisfy `p`.
    have stays := List.head_dropWhile_not p left
    rw [blank _ (List.mem_reverse.mpr (List.head_mem left))] at stays
    cases stays
  · intro empty
    simp [empty]

/-!
## Searching
-/

theorem contains_iff_infix {piece : List Char} : contains piece text = true ↔ piece <:+: text := by
  induction text with
  | nil => rw [contains, List.isEmpty_iff, List.infix_nil]
  | cons c rest ih =>
      rw [contains, Bool.or_eq_true, ih, List.isPrefixOf_iff_prefix, List.infix_cons_iff]

theorem contains_eq_false {piece : List Char} (inside : c ∈ piece) (absent : c ∉ text) :
    contains piece text = false := by
  induction text with
  | nil =>
      cases piece with
      | nil => cases inside
      | cons _ _ => rfl
  | cons first rest ih =>
      have mismatch : piece.isPrefixOf (first :: rest) = false := by
        rw [Bool.eq_false_iff, ne_eq, List.isPrefixOf_iff_prefix]
        exact fun starts => absent (starts.subset inside)
      rw [contains, mismatch, ih (List.not_mem_of_not_mem_cons absent)]
      rfl

end ThrowawayServer.Text
