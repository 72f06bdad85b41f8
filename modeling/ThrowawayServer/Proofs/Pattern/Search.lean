import ThrowawayServer.Proofs.Pattern.Ends
import ThrowawayServer.Proofs.Text.Tokens

/-!
# The first piece of a text

A search tries one place after the other. It comes to the first place from which what is left of the
text satisfies what the pattern asks of it. The shortest wildcard that lets the rest of a pattern
follow searches in the same way.
-/

set_option autoImplicit false

namespace ThrowawayServer

namespace Text

variable {starts : List Char → Prop} {token text before after rest : List Char}

/-- `after` is what is left of a text from the first place on from which it satisfies `starts`. -/
structure FirstFrom (starts : List Char → Prop) (text before after : List Char) : Prop where
  joined : text = before ++ after
  starts_here : starts after
  earliest : ∀ shorter rest, text = shorter ++ rest → starts rest → before.length ≤ shorter.length

/-- What begins with a token does not begin before the first occurrence of the token. -/
theorem FirstFrom.of_firstAt (first : FirstAt token text before after)
    (opens : ∀ rest, starts rest → token <+: rest) (here : starts (token ++ after)) :
    FirstFrom starts text before (token ++ after) := by
  refine ⟨first.joined, here, fun shorter rest split begun => ?_⟩
  obtain ⟨behind, rfl⟩ := opens rest begun
  exact first.earliest shorter behind split

/-- If a longer rest never does worse, the first occurrence of a token is tried alone. -/
theorem firstFrom_token_iff {follows : List Char → Prop}
    (longer : ∀ after after', after <:+ after' → follows after → follows after') :
    FirstFrom (fun rest => ∃ after, rest = token ++ after ∧ follows after) text before rest ↔
      ∃ after, rest = token ++ after ∧ FirstAt token text before after ∧ follows after := by
  constructor
  · rintro ⟨joined, ⟨after, rfl, followed⟩, earliest⟩
    refine ⟨after, rfl, ⟨joined, fun start behind split => ?_⟩, followed⟩
    by_contra earlier
    have later : after <:+ behind := by
      have ends : token ++ behind <:+ text := ⟨start, split.symm⟩
      have ends' : after <:+ text := ⟨before ++ token, by rw [joined, List.append_assoc]⟩
      have width := congrArg List.length (joined.symm.trans split)
      simp only [List.length_append] at width
      exact List.suffix_of_suffix_length_le ends' ((List.suffix_append token behind).trans ends)
        (by omega)
    exact earlier (earliest start _ split ⟨behind, rfl, longer after behind later followed⟩)
  · rintro ⟨after, rfl, first, followed⟩
    refine .of_firstAt first ?_ ⟨after, rfl, followed⟩
    rintro _ ⟨behind, rfl, -⟩
    exact List.prefix_append token behind

end Text

/-- The first place up to the end of the text that gives something is the first from which what is
left of the text satisfies what it takes. -/
theorem Place.findSome?_through_end_iff {α : Type} {f : Place → Option α} {found : α}
    {place : Place} (starts : List Char → Prop)
    (meets : ∀ passed, (f (place.pass passed)).isSome ↔ starts (place.rest.drop passed)) :
    (place.through place.rest.length).findSome? f = some found ↔
      ∃ before after, Text.FirstFrom starts place.rest before after ∧
        f (place.pass before.length) = some found := by
  rw [findSome?_through_eq_some_iff]
  constructor
  · rintro ⟨passed, within, last, earlier⟩
    have taken : (place.rest.take passed).length = passed := List.length_take_of_le within
    refine ⟨place.rest.take passed, place.rest.drop passed, ⟨?_, ?_, ?_⟩, by rwa [taken]⟩
    · exact (List.take_append_drop passed place.rest).symm
    · exact (meets passed).mp (Option.isSome_of_mem last)
    · intro shorter rest split starts_there
      rw [taken]
      by_contra before
      have nothing := earlier shorter.length (Nat.lt_of_not_le before)
      have something : (f (place.pass shorter.length)).isSome := by
        rw [meets, split, List.drop_left]
        exact starts_there
      rw [nothing] at something
      cases something
  · rintro ⟨before, after, first, last⟩
    refine ⟨before.length, ?_, last, fun earlier shorter => ?_⟩
    · rw [first.joined, List.length_append]
      exact Nat.le_add_right _ _
    · rw [← Option.not_isSome_iff_eq_none, meets]
      intro starts_there
      have later := first.earliest _ _ (List.take_append_drop earlier place.rest).symm starts_there
      have taken := List.length_take_le earlier place.rest
      omega

namespace Pattern

variable {pattern : Pattern} {place : Place}

theorem findFrom?_eq (pattern : Pattern) (offset : Nat) (text : List Char) :
    pattern.findFrom? offset text =
      ((⟨offset, text, []⟩ : Place).through text.length).findSome? pattern.foundAt? := by
  induction text generalizing offset with
  | nil =>
      rw [findFrom?, List.length_nil, Place.through, List.findSome?_singleton]
  | cons c rest ih =>
      rw [findFrom?, List.length_cons, Place.through, List.findSome?_cons, ih]
      cases pattern.foundAt? ⟨offset, c :: rest, []⟩ <;> rfl

theorem find?_eq (pattern : Pattern) (text : List Char) :
    pattern.find? text = ((⟨0, text, []⟩ : Place).through text.length).findSome? pattern.foundAt? :=
  pattern.findFrom?_eq 0 text

/-- A wildcard that is as short as can be searches for what follows it. -/
theorem head?_ends_shortest (second : Pattern) (unbroken : '\n' ∉ place.rest) :
    ((Pattern.sequence (many anyChar false) second).ends place).head? =
      (place.through place.rest.length).findSome? fun next => (second.ends next).head? := by
  rw [head?_ends_sequence, ends_shortest unbroken]

end Pattern

end ThrowawayServer
