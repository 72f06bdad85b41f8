import ThrowawayServer.Proofs.Text.Cutting

/-!
# Texts cut at a token

A text falls into the pieces between the occurrences of a token. Occurrences are found from the left
and do not overlap: the first one ends the first piece, and what follows it is cut in the same way.
Replacing the token joins the pieces with the replacement between them. A replacement that shares no
end with the token and has a character that the token lacks makes no new occurrence.
-/

set_option autoImplicit false

namespace ThrowawayServer.Text

variable {token new other text before after : List Char} {c d : Char}
  {pieces others : List (List Char)}

/-!
## The first occurrence
-/

/-- The token stands between `before` and `after`, and nowhere earlier in the text. -/
structure FirstAt (token text before after : List Char) : Prop where
  joined : text = before ++ (token ++ after)
  earliest : ∀ start rest, text = start ++ (token ++ rest) → before.length ≤ start.length

theorem firstAt_start (token after : List Char) : FirstAt token (token ++ after) [] after :=
  ⟨rfl, fun _ _ _ => Nat.zero_le _⟩

theorem FirstAt.cons (elsewhere : ¬ token <+: c :: text) (first : FirstAt token text before after) :
    FirstAt token (c :: text) (c :: before) after := by
  constructor
  case joined => rw [first.joined, List.cons_append]
  case earliest =>
    intro start rest joined
    cases start with
    | nil => exact absurd ⟨rest, joined.symm⟩ elsewhere
    | cons d start =>
        have later := first.earliest start rest (List.cons.inj joined).2
        exact Nat.succ_le_succ later

theorem FirstAt.elsewhere (first : FirstAt token text (c :: before) after) : ¬ token <+: text := by
  intro start
  obtain ⟨rest, joined⟩ := start
  have later := first.earliest [] rest joined.symm
  exact absurd later (Nat.not_succ_le_zero before.length)

theorem FirstAt.tail (first : FirstAt token (c :: text) (d :: before) after) :
    c = d ∧ FirstAt token text before after := by
  obtain ⟨same, joined⟩ := List.cons.inj first.joined
  refine ⟨same, joined, ?_⟩
  intro start rest split
  have later := first.earliest (c :: start) rest (by rw [split, List.cons_append])
  exact Nat.le_of_succ_le_succ later

theorem exists_firstAt (occurs : token <:+: text) :
    ∃ before after, FirstAt token text before after := by
  induction text with
  | nil =>
      cases List.infix_nil.mp occurs
      exact ⟨[], [], firstAt_start [] []⟩
  | cons c text ih =>
      by_cases start : token <+: c :: text
      · obtain ⟨after, joined⟩ := start
        exact ⟨[], after, joined ▸ firstAt_start token after⟩
      · have later := (List.infix_cons_iff.mp occurs).resolve_left start
        obtain ⟨before, after, first⟩ := ih later
        exact ⟨c :: before, after, first.cons start⟩

theorem FirstAt.unique {before' after' : List Char} (first : FirstAt token text before after)
    (first' : FirstAt token text before' after') : before = before' ∧ after = after' := by
  have length : before.length = before'.length :=
    Nat.le_antisymm (first.earliest before' after' first'.joined)
      (first'.earliest before after first.joined)
  obtain ⟨sameBefore, sameRest⟩ := List.append_inj (first.joined.symm.trans first'.joined) length
  exact ⟨sameBefore, List.append_cancel_left sameRest⟩

theorem FirstAt.not_infix_before (filled : token ≠ []) (first : FirstAt token text before after) :
    ¬ token <:+: before := by
  intro occurs
  obtain ⟨start, rest, joined⟩ := occurs
  have earlier := first.earliest start (rest ++ (token ++ after)) (by
    rw [first.joined, ← joined]
    simp only [List.append_assoc])
  have width : 0 < token.length := List.length_pos_iff.mpr filled
  rw [← joined, List.length_append, List.length_append] at earlier
  omega

/-- A token of which no end is also its start, the whole token apart. -/
def Unbordered (token : List Char) : Prop :=
  ∀ shift < token.length, 0 < shift → ¬ token.drop shift <+: token

instance (token : List Char) : Decidable (Unbordered token) :=
  inferInstanceAs (Decidable (∀ shift < token.length, 0 < shift → ¬ token.drop shift <+: token))

/-- Occurrences of an unbordered token do not overlap, so what lacks it does not bring it forward. -/
theorem firstAt_of_unbordered (unbordered : Unbordered token) (absent : ¬ token <:+: before)
    (after : List Char) : FirstAt token (before ++ (token ++ after)) before after := by
  refine ⟨rfl, fun start rest joined => ?_⟩
  by_contra earlier
  obtain ⟨between, rfl⟩ : ∃ between, before = start ++ between := by
    have begins : start <+: before ++ (token ++ after) := ⟨token ++ rest, joined.symm⟩
    obtain ⟨between, split⟩ :=
      List.prefix_of_prefix_length_le begins (List.prefix_append _ _) (by omega)
    exact ⟨between, split.symm⟩
  rw [List.append_assoc] at joined
  have overlap : between ++ (token ++ after) = token ++ rest := List.append_cancel_left joined
  have behind_start : between <+: token ++ rest := ⟨token ++ after, overlap⟩
  rcases Nat.lt_or_ge between.length token.length with overlapping | apart
  · have shifted : token ++ after = token.drop between.length ++ rest := by
      rw [← List.drop_append_of_le_length (by omega), ← overlap, List.drop_left]
    have bordered : token.drop between.length <+: token :=
      List.prefix_of_prefix_length_le ⟨rest, shifted.symm⟩ (List.prefix_append token after)
        (by rw [List.length_drop]; omega)
    rw [List.length_append] at earlier
    exact unbordered between.length overlapping (by omega) bordered
  · have inside : token <+: between :=
      List.prefix_of_prefix_length_le (List.prefix_append token rest) behind_start apart
    exact absent (inside.isInfix.trans (List.suffix_append start between).isInfix)

/-!
## Pieces between occurrences
-/

/-- The pieces of a text between the occurrences of a token. -/
inductive CutAt (token : List Char) : List Char → List (List Char) → Prop where
  | last {text : List Char} (absent : ¬ token <:+: text) : CutAt token text [text]
  | next {text before after : List Char} {pieces : List (List Char)}
      (first : FirstAt token text before after) (rest : CutAt token after pieces) :
      CutAt token text (before :: pieces)

theorem FirstAt.occurs (first : FirstAt token text before after) : token <:+: text :=
  ⟨before, after, by rw [first.joined, List.append_assoc]⟩

theorem exists_cutAt (filled : token ≠ []) (text : List Char) :
    ∃ pieces, CutAt token text pieces := by
  by_cases occurs : token <:+: text
  · obtain ⟨before, after, first⟩ := exists_firstAt occurs
    have shorter : after.length < text.length := by
      have width : 0 < token.length := List.length_pos_iff.mpr filled
      rw [first.joined, List.length_append, List.length_append]
      omega
    obtain ⟨pieces, rest⟩ := exists_cutAt filled after
    exact ⟨before :: pieces, .next first rest⟩
  · exact ⟨[text], .last occurs⟩
termination_by text.length

namespace CutAt

theorem nonempty (cut : CutAt token text pieces) : pieces ≠ [] := by
  cases cut <;> exact List.cons_ne_nil _ _

theorem unique (cut : CutAt token text pieces) (cut' : CutAt token text others) :
    others = pieces := by
  induction cut generalizing others with
  | last absent =>
      cases cut' with
      | last => rfl
      | next first => exact absurd first.occurs absent
  | next first _ ih =>
      cases cut' with
      | last absent => exact absurd first.occurs absent
      | next first' rest =>
          obtain ⟨rfl, rfl⟩ := first.unique first'
          rw [ih rest]

theorem intercalate_eq (cut : CutAt token text pieces) : token.intercalate pieces = text := by
  induction cut with
  | last => exact List.intercalate_singleton
  | next first rest ih =>
      obtain ⟨piece, pieces, rfl⟩ := List.exists_cons_of_ne_nil rest.nonempty
      rw [List.intercalate_cons_cons, ih, first.joined, List.append_assoc]

theorem not_infix_of_mem (filled : token ≠ []) (cut : CutAt token text pieces) :
    ∀ piece ∈ pieces, ¬ token <:+: piece := by
  induction cut with
  | last absent =>
      intro piece member
      rw [List.mem_singleton.mp member]
      exact absent
  | next first _ ih =>
      intro piece member
      rcases List.mem_cons.mp member with rfl | member
      · exact first.not_infix_before filled
      · exact ih piece member

/-- A text with an occurrence falls into two pieces at least. -/
theorem two_pieces (occurs : token <:+: text) (cut : CutAt token text pieces) :
    ∃ first second rest, pieces = first :: second :: rest := by
  cases cut with
  | last absent => exact absurd occurs absent
  | @next _ before _ pieces _ rest =>
      obtain ⟨second, pieces, rfl⟩ := List.exists_cons_of_ne_nil rest.nonempty
      exact ⟨before, second, pieces, rfl⟩

end CutAt

/-!
## Replacing a token
-/

theorem replaceFrom_cons_elsewhere (elsewhere : ¬ token <+: c :: text) (new : List Char) :
    replaceFrom token new 0 (c :: text) = c :: replaceFrom token new 0 text := by
  have mismatch : token.isPrefixOf (c :: text) = false := by
    rw [Bool.eq_false_iff, ne_eq, List.isPrefixOf_iff_prefix]
    exact elsewhere
  rw [replaceFrom, mismatch, if_neg Bool.false_ne_true]

theorem replaceFrom_of_absent (absent : ¬ token <:+: text) (new : List Char) :
    replaceFrom token new 0 text = text := by
  induction text with
  | nil => rfl
  | cons c text ih =>
      rw [List.infix_cons_iff, not_or] at absent
      rw [replaceFrom_cons_elsewhere absent.1, ih absent.2]

theorem replaceFrom_skip (piece new passed text : List Char) :
    replaceFrom piece new passed.length (passed ++ text) = replaceFrom piece new 0 text := by
  induction passed with
  | nil => rfl
  | cons c passed ih => exact ih

theorem replaceFrom_token (filled : token ≠ []) (new after : List Char) :
    replaceFrom token new 0 (token ++ after) = new ++ replaceFrom token new 0 after := by
  obtain ⟨c, rest, rfl⟩ := List.exists_cons_of_ne_nil filled
  have found : (c :: rest).isPrefixOf (c :: (rest ++ after)) = true :=
    List.isPrefixOf_iff_prefix.mpr (List.prefix_append (c :: rest) after)
  rw [List.cons_append, replaceFrom, if_pos found, List.length_cons, Nat.add_sub_cancel,
    replaceFrom_skip]

theorem FirstAt.replaceFrom_eq (filled : token ≠ []) (first : FirstAt token text before after)
    (new : List Char) :
    replaceFrom token new 0 text = before ++ (new ++ replaceFrom token new 0 after) := by
  induction before generalizing text with
  | nil =>
      rw [first.joined, List.nil_append, replaceFrom_token filled]
      rfl
  | cons d before ih =>
      cases text with
      | nil => exact absurd first.joined (List.cons_ne_nil d _).symm
      | cons c text =>
          obtain ⟨rfl, rest⟩ := first.tail
          rw [replaceFrom_cons_elsewhere first.elsewhere, ih rest, List.cons_append]

theorem CutAt.replaceAll_eq (filled : token ≠ []) (cut : CutAt token text pieces)
    (new : List Char) : replaceAll token new text = new.intercalate pieces := by
  have unempty : token.isEmpty = false := List.isEmpty_eq_false_iff.mpr filled
  rw [replaceAll, unempty, if_neg Bool.false_ne_true]
  induction cut with
  | last absent => rw [replaceFrom_of_absent absent, List.intercalate_singleton]
  | next first rest ih =>
      obtain ⟨piece, pieces, rfl⟩ := List.exists_cons_of_ne_nil rest.nonempty
      rw [first.replaceFrom_eq filled, ih, List.intercalate_cons_cons, List.append_assoc]

/-- The first character of a token shows where it can begin. -/
theorem firstAt_of_absent (token : List Char) (absent : c ∉ before) (after : List Char) :
    FirstAt (c :: token) (before ++ (c :: token ++ after)) before after := by
  induction before with
  | nil => exact firstAt_start (c :: token) after
  | cons d before ih =>
      obtain ⟨different, absent⟩ := List.ne_and_not_mem_of_not_mem_cons absent
      refine (ih absent).cons ?_
      intro start
      exact different (List.cons_prefix_cons.mp start).1

theorem not_infix_of_absent (absent : c ∉ text) : ¬ c :: token <:+: text :=
  fun occurs => absent (occurs.subset List.mem_cons_self)

theorem replaceAll_once (token new : List Char) (absentBefore : c ∉ before)
    (absentAfter : c ∉ after) :
    replaceAll (c :: token) new (before ++ (c :: token ++ after)) = before ++ (new ++ after) := by
  have first := firstAt_of_absent token absentBefore after
  have cut := CutAt.next first (.last (not_infix_of_absent absentAfter))
  rw [cut.replaceAll_eq (List.cons_ne_nil c token), List.intercalate_cons_cons,
    List.intercalate_singleton, List.append_assoc]

/-- A replacement that cannot be part of an occurrence of the token. -/
structure Unlike (token new : List Char) : Prop where
  filled : token ≠ []
  foreign : ∃ c ∈ new, c ∉ token
  first_absent : ∀ c ∈ token.head?, c ∉ new
  last_absent : ∀ c ∈ token.getLast?, c ∉ new

namespace Unlike

theorem no_start_inside {start rest : List Char} (unlike : Unlike (start ++ rest) new)
    (begun : start ≠ []) : ¬ start <:+: new := by
  intro occurs
  obtain ⟨c, letters, rfl⟩ := List.exists_cons_of_ne_nil begun
  exact unlike.first_absent c rfl (occurs.subset List.mem_cons_self)

theorem no_end_inside {start rest : List Char} (unlike : Unlike (start ++ rest) new)
    (ended : rest ≠ []) : ¬ rest <:+: new := by
  intro occurs
  obtain ⟨letters, c, rfl⟩ := (List.eq_nil_or_concat' rest).resolve_left ended
  refine unlike.last_absent c ?_ (occurs.subset (List.mem_append_right _ List.mem_cons_self))
  rw [← List.append_assoc, List.getLast?_concat]
  rfl

theorem not_infix_append (unlike : Unlike token new) (left : ¬ token <:+: before)
    (right : ¬ token <:+: after) : ¬ token <:+: before ++ (new ++ after) := by
  have whole : ¬ token <:+: new := by
    have unlike_nil : Unlike (token ++ []) new := by rwa [List.append_nil]
    exact unlike_nil.no_start_inside unlike.filled
  have behind : ¬ token <:+: new ++ after := by
    intro occurs
    rcases List.infix_append_iff_ne_nil.mp occurs with inside | inside | across
    · exact whole inside
    · exact right inside
    · obtain ⟨start, rest, begun, ended, rfl, within, -⟩ := across
      exact unlike.no_start_inside begun within.isInfix
  intro occurs
  rcases List.infix_append_iff_ne_nil.mp occurs with inside | inside | across
  · exact left inside
  · exact behind inside
  · obtain ⟨start, rest, begun, ended, rfl, -, within⟩ := across
    -- An occurrence that reaches into the replacement ends there or goes past all of it.
    rcases List.prefix_or_prefix_of_prefix within (List.prefix_append new after) with ends | passes
    · exact unlike.no_end_inside ended ends.isInfix
    · obtain ⟨c, inside, foreign⟩ := unlike.foreign
      exact foreign (List.mem_append_right start (passes.subset inside))

theorem not_infix_intercalate (unlike : Unlike token new) (filled : pieces ≠ [])
    (absent : ∀ piece ∈ pieces, ¬ token <:+: piece) : ¬ token <:+: new.intercalate pieces := by
  induction pieces with
  | nil => exact absurd rfl filled
  | cons piece pieces ih =>
      have here := absent piece List.mem_cons_self
      cases pieces with
      | nil =>
          rw [List.intercalate_singleton]
          exact here
      | cons next pieces =>
          have later := ih (List.cons_ne_nil next pieces)
            fun piece member => absent piece (List.mem_cons_of_mem _ member)
          rw [List.intercalate_cons_cons, List.append_assoc]
          exact unlike.not_infix_append here later

end Unlike

theorem length_intercalate_cons (new piece : List Char) (pieces : List (List Char)) :
    (new.intercalate (piece :: pieces)).length =
      (piece :: pieces).flatten.length + pieces.length * new.length := by
  induction pieces generalizing piece with
  | nil => simp
  | cons next pieces ih =>
      rw [List.intercalate_cons_cons, List.length_append, List.length_append, ih]
      simp only [List.flatten_cons, List.length_append, List.length_cons, Nat.succ_mul]
      omega

/-- What stands between the same pieces is told by the length and the first place. -/
theorem eq_of_intercalate_eq {first second : List Char}
    (same : new.intercalate (first :: second :: pieces) =
      other.intercalate (first :: second :: pieces)) : new = other := by
  have length : new.length = other.length := by
    have lengths := congrArg List.length same
    rw [length_intercalate_cons, length_intercalate_cons] at lengths
    exact Nat.eq_of_mul_eq_mul_left (Nat.succ_pos pieces.length) (Nat.add_left_cancel lengths)
  rw [List.intercalate_cons_cons, List.intercalate_cons_cons, List.append_assoc,
    List.append_assoc] at same
  exact (List.append_inj (List.append_cancel_left same) length).1

end ThrowawayServer.Text
