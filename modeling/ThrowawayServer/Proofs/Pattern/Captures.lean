import ThrowawayServer.Proofs.Pattern.Search

/-!
# What patterns capture

What a name stands for in the preferred piece of a pattern can be told from the text alone, part by
part of the pattern: which text follows which, and where the first of several candidates stands. The
rules below say so for a pattern that goes on after one of its parts.
-/

set_option autoImplicit false

namespace ThrowawayServer

/-- The characters that satisfy `p` at the start of a text, of which there is one at least. -/
structure LeadingRun (p : Char → Bool) (text run after : List Char) : Prop where
  joined : text = run ++ after
  filled : run ≠ []
  inside : ∀ c ∈ run, p c = true
  ended : ∀ c ∈ after.head?, p c = false

theorem Place.exists_leadingRun_iff {set : CharSet} {place : Place} {run : List Char} :
    (∃ after, LeadingRun set.contains place.rest run after) ↔
      place.reach set ≠ 0 ∧ place.rest.take (place.reach set) = run := by
  constructor
  · rintro ⟨after, joined, filled, inside, ended⟩
    rw [reach_eq_length joined inside ended, joined, List.take_left]
    exact ⟨fun empty => filled (List.length_eq_zero_iff.mp empty), rfl⟩
  · rintro ⟨some_inside, rfl⟩
    refine ⟨place.rest.drop (place.reach set), ?_⟩
    constructor
    case joined => exact (List.take_append_drop _ _).symm
    case filled =>
      intro empty
      have length := congrArg List.length empty
      rw [List.length_take_of_le (reach_le set place)] at length
      exact some_inside length
    case inside => exact inside_of_mem_take_reach
    case ended => exact head?_pass_reach set place

namespace Pattern

/-- What a name stands for in the preferred piece that starts at a place. -/
def captured? (pattern : Pattern) (name : String) (place : Place) : Option (List Char) :=
  (pattern.ends place).head?.map fun stop => ((stop.names.lookup name).map Piece.text).getD []

/-- Wherever a pattern starts in a line, `reads` tells what it captures from what is left of the
line. -/
def Captures (pattern : Pattern) (name : String) (reads : List Char → List Char → Prop) : Prop :=
  ∀ place : Place, '\n' ∉ place.rest →
    ∀ captured, pattern.captured? name place = some captured ↔ reads place.rest captured

variable {first second third : Pattern} {name : String} {place : Place}
  {reads others : List Char → List Char → Prop}

theorem find?_captured (pattern : Pattern) (name : String) (text : List Char) :
    ((pattern.find? text).map fun found => (found.named? name).getD []) =
      ((⟨0, text, []⟩ : Place).through text.length).findSome? (pattern.captured? name) := by
  rw [find?_eq, List.map_findSome?]
  congr 1
  funext place
  simp only [Function.comp_apply, foundAt?, Option.map_map, captured?]
  rfl

theorem captured?_named_repeated (set : CharSet) (name : String) (place : Place) :
    (Pattern.named name (.repeated (.char set) true)).captured? name place =
      if place.reach set = 0 then none else some (place.rest.take (place.reach set)) := by
  rw [captured?, ends_named, ends_repeated, List.head?_map]
  cases place.reach set with
  | zero => rfl
  | succ count =>
      rw [Place.through, List.tail_cons, Place.head?_reverse_through, Place.pass_pass,
        Nat.add_comm 1, if_neg (Nat.succ_ne_zero count)]
      simp only [Option.map_some, Place.name, List.lookup_cons_self, Place.text_upTo_pass,
        Option.getD_some]

namespace Captures

theorem congr (captures : second.Captures name reads)
    (same : ∀ rest captured, reads rest captured ↔ others rest captured) :
    second.Captures name others := by
  intro place unbroken captured
  rw [captures place unbroken, same]

theorem none_iff (captures : second.Captures name reads) (unbroken : '\n' ∉ place.rest) :
    second.captured? name place = none ↔ ∀ captured, ¬ reads place.rest captured := by
  rw [Option.eq_none_iff_forall_ne_some]
  simp only [ne_eq, captures place unbroken]

theorem ends_eq_nil (captures : second.Captures name reads) (unbroken : '\n' ∉ place.rest)
    (unread : ∀ captured, ¬ reads place.rest captured) : second.ends place = [] := by
  have nothing := (captures.none_iff unbroken).mpr unread
  rwa [captured?, Option.map_eq_none_iff, List.head?_eq_none_iff] at nothing

theorem text_sequence (captures : second.Captures name reads) (s : String) :
    (Pattern.sequence (.text s) second).Captures name
      fun rest captured => ∃ text, rest = s.toList ++ text ∧ reads text captured := by
  intro place unbroken captured
  rw [captured?, ends_text_sequence]
  split
  · next starts =>
    obtain ⟨text, joined⟩ := starts
    have behind : (place.pass s.toList.length).rest = text := by
      rw [Place.pass_rest, ← joined, List.drop_left]
    rw [← captured?, captures _ (Place.unbroken_pass unbroken _), behind, ← joined]
    simp only [List.append_cancel_left_eq, exists_eq_left']
  · next other =>
    simp only [List.head?_nil, Option.map_none, reduceCtorEq, false_iff]
    rintro ⟨text, joined, -⟩
    exact other ⟨text, joined.symm⟩

theorem many_sequence (captures : second.Captures name reads) (set : CharSet)
    (firm : ∀ text captured, reads text captured → ∀ c ∈ text.head?, set.contains c = false) :
    (Pattern.sequence (many (.char set) true) second).Captures name
      fun rest captured => ∃ run text, rest = run ++ text ∧ (∀ c ∈ run, set.contains c = true) ∧
        reads text captured := by
  intro place unbroken captured
  -- Wherever the run stops early, a character of the set stands next.
  have barred : ∀ passed < place.reach set, second.ends (place.pass passed) = [] := by
    intro passed before
    refine captures.ends_eq_nil (Place.unbroken_pass unbroken passed) fun other read => ?_
    obtain ⟨c, leads, inside⟩ := Place.inside_of_lt_reach before
    rw [firm _ other read c leads] at inside
    cases inside
  rw [captured?, ends_many_sequence place barred, ← captured?,
    captures _ (Place.unbroken_pass unbroken _), Place.pass_rest]
  constructor
  · intro read
    exact ⟨place.rest.take (place.reach set), _, (List.take_append_drop _ _).symm,
      Place.inside_of_mem_take_reach, read⟩
  · rintro ⟨run, text, joined, inside, read⟩
    have reach_eq := Place.reach_eq_length joined inside (firm text captured read)
    rwa [reach_eq, joined, List.drop_left]

/-- The first place where something can be read. -/
theorem findSome?_iff (captures : second.Captures name reads) (unbroken : '\n' ∉ place.rest)
    {captured : List Char} :
    (place.through place.rest.length).findSome? (second.captured? name) = some captured ↔
      ∃ before rest, Text.FirstFrom (fun rest => ∃ captured, reads rest captured) place.rest before
        rest ∧ reads rest captured := by
  have meets (passed : Nat) : (second.captured? name (place.pass passed)).isSome ↔
      ∃ captured, reads (place.rest.drop passed) captured := by
    rw [Option.isSome_iff_exists]
    exact exists_congr (captures _ (Place.unbroken_pass unbroken passed))
  rw [Place.findSome?_through_end_iff (fun rest => ∃ captured, reads rest captured) meets]
  refine exists_congr fun before => exists_congr fun rest => and_congr_right fun first => ?_
  rw [captures _ (Place.unbroken_pass unbroken _), Place.pass_rest, first.joined, List.drop_left]

theorem shortest_sequence (captures : second.Captures name reads) :
    (Pattern.sequence (many anyChar false) second).Captures name
      fun rest captured => ∃ before text,
        Text.FirstFrom (fun rest => ∃ captured, reads rest captured) rest before text ∧
          reads text captured := by
  intro place unbroken captured
  rw [captured?, head?_ends_shortest second unbroken, List.map_findSome?]
  exact captures.findSome?_iff unbroken

theorem assoc (captures : (Pattern.sequence first (.sequence second third)).Captures name reads) :
    (Pattern.sequence (.sequence first second) third).Captures name reads := by
  intro place unbroken captured
  rw [captured?, ends_sequence_assoc]
  exact captures place unbroken captured

theorem choice_sequence (left : (Pattern.sequence first third).Captures name reads)
    (right : (Pattern.sequence second third).Captures name others)
    (apart : ∀ rest captured other, reads rest captured → ¬ others rest other) :
    (Pattern.sequence (.choice first second) third).Captures name
      fun rest captured => reads rest captured ∨ others rest captured := by
  intro place unbroken captured
  rw [captured?, ends_choice_sequence, List.head?_append, Option.map_or, Option.or_eq_some_iff,
    ← captured?, ← captured?, left place unbroken, left.none_iff unbroken, right place unbroken]
  constructor
  · rintro (read | ⟨-, read⟩)
    · exact .inl read
    · exact .inr read
  · rintro (read | read)
    · exact .inl read
    · exact .inr ⟨fun other read' => apart _ other captured read' read, read⟩

theorem named_repeated (set : CharSet) (name : String) :
    (Pattern.named name (.repeated (.char set) true)).Captures name
      fun rest run => ∃ after, LeadingRun set.contains rest run after := by
  intro place _ run
  rw [captured?_named_repeated, Option.ite_none_left_eq_some, Option.some.injEq]
  exact Place.exists_leadingRun_iff.symm

end Captures

end Pattern

end ThrowawayServer
