import ThrowawayServer.Pattern.Match
import ThrowawayServer.Proofs.Text.Cutting

/-!
# Where pieces end

From a place on, a fixed text has one end or none, and a repeated set has every place that its
characters lead to. A repeated set before something that cannot begin with one of its characters
passes over all of them. As long as no line feed comes, a wildcard may end anywhere.
-/

set_option autoImplicit false

namespace ThrowawayServer

theorem CharSet.contains_single {c d : Char} : (range c c).contains d = true ↔ d = c := by
  rw [contains, Bool.and_eq_true, decide_eq_true_eq, decide_eq_true_eq]
  exact ⟨fun ⟨low, high⟩ => Char.le_antisymm high low, fun same => by simp [same]⟩

namespace Place

variable {set : CharSet} {place next : Place} {count : Nat} {c : Char}
  {inside outside rest : List Char}

/-!
## Places further on
-/

/-- The place after the next characters, as many as are given. -/
def pass (place : Place) (count : Nat) : Place :=
  { place with offset := place.offset + count, rest := place.rest.drop count }

@[simp] theorem pass_offset (place : Place) (count : Nat) :
    (place.pass count).offset = place.offset + count := rfl

@[simp] theorem pass_rest (place : Place) (count : Nat) :
    (place.pass count).rest = place.rest.drop count := rfl

@[simp] theorem pass_zero (place : Place) : place.pass 0 = place := rfl

theorem pass_pass (place : Place) (count more : Nat) :
    (place.pass count).pass more = place.pass (count + more) := by
  simp only [pass, List.drop_drop, Nat.add_assoc]

theorem unbroken_pass (unbroken : '\n' ∉ place.rest) (count : Nat) :
    '\n' ∉ (place.pass count).rest :=
  fun inside => unbroken (List.mem_of_mem_drop inside)

/-- The place at the end of the text. -/
def finish (place : Place) : Place := place.pass place.rest.length

theorem finish_pass (within : count ≤ place.rest.length) :
    (place.pass count).finish = place.finish := by
  rw [finish, finish, pass_pass, pass_rest, List.length_drop, Nat.add_sub_cancel' within]

@[simp] theorem text_upTo_pass (place : Place) (count : Nat) :
    (place.upTo (place.pass count)).text = place.rest.take count := by
  rw [upTo, Piece.text, pass_offset, Nat.add_sub_cancel_left]

@[simp] theorem text_upTo_finish (place : Place) : (place.upTo place.finish).text = place.rest := by
  rw [finish, text_upTo_pass, List.take_length]

/-- A place and the places after the next characters, as many as are given, the nearest first. -/
def through (place : Place) : Nat → List Place
  | 0 => [place]
  | count + 1 => place :: (place.pass 1).through count

theorem through_eq_cons (place : Place) (count : Nat) :
    ∃ farther, place.through count = place :: farther := by
  cases count <;> exact ⟨_, rfl⟩

theorem mem_through : next ∈ place.through count ↔ ∃ passed ≤ count, next = place.pass passed := by
  induction count generalizing place with
  | zero => simp [through]
  | succ count ih =>
      rw [through, List.mem_cons, ih]
      constructor
      · rintro (rfl | ⟨passed, within, rfl⟩)
        · exact ⟨0, Nat.zero_le _, rfl⟩
        · exact ⟨1 + passed, by omega, pass_pass ..⟩
      · rintro ⟨passed, within, rfl⟩
        cases passed with
        | zero => exact .inl rfl
        | succ passed =>
            exact .inr ⟨passed, Nat.le_of_succ_le_succ within, by rw [pass_pass, Nat.add_comm]⟩

theorem through_succ (place : Place) (count : Nat) :
    place.through (count + 1) = place.through count ++ [place.pass (count + 1)] := by
  induction count generalizing place with
  | zero => rfl
  | succ count ih =>
      rw [through, ih, pass_pass, Nat.add_comm 1]
      rfl

theorem head?_reverse_through (place : Place) (count : Nat) :
    (place.through count).reverse.head? = some (place.pass count) := by
  cases count with
  | zero => rfl
  | succ count => rw [through_succ, List.reverse_concat]; rfl

/-- The first of the places that gives something is the one before which no other does. -/
theorem findSome?_through_eq_some_iff {α : Type} {f : Place → Option α} {found : α} :
    (place.through count).findSome? f = some found ↔
      ∃ passed ≤ count, f (place.pass passed) = some found ∧
        ∀ earlier < passed, f (place.pass earlier) = none := by
  induction count generalizing place with
  | zero => simp [through]
  | succ count ih =>
      rw [through, List.findSome?_cons]
      cases here : f place with
      | some first =>
          constructor
          · rintro ⟨⟩
            exact ⟨0, Nat.zero_le _, here, nofun⟩
          · rintro ⟨passed, -, last, earlier⟩
            cases passed with
            | zero => exact here.symm.trans last
            | succ passed =>
                have none_here : f place = none := earlier 0 (Nat.succ_pos passed)
                rw [here] at none_here
                cases none_here
      | none =>
          dsimp only
          rw [ih]
          simp only [pass_pass, Nat.add_comm 1]
          constructor
          · rintro ⟨passed, within, last, earlier⟩
            refine ⟨passed + 1, Nat.succ_le_succ within, last, fun count before => ?_⟩
            cases count with
            | zero => exact here
            | succ count => exact earlier count (Nat.lt_of_succ_lt_succ before)
          · rintro ⟨passed, within, last, earlier⟩
            cases passed with
            | zero =>
                rw [pass_zero, here] at last
                cases last
            | succ passed =>
                exact ⟨passed, Nat.le_of_succ_le_succ within, last,
                  fun count before => earlier (count + 1) (Nat.succ_lt_succ before)⟩

/-!
## Characters of a set
-/

/-- The number of characters of a set that come next. -/
def reach (set : CharSet) (place : Place) : Nat := (place.rest.takeWhile set.contains).length

theorem reach_of_outside (outside : ∀ c ∈ place.rest.head?, set.contains c = false) :
    place.reach set = 0 := by
  cases stands : place.rest with
  | nil => rw [reach, stands]; rfl
  | cons c rest =>
      have stops : ¬ set.contains c = true := by simp [outside c (by rw [stands]; rfl)]
      rw [reach, stands, List.takeWhile_cons_of_neg stops]
      rfl

theorem reach_of_inside (stands : place.rest = c :: rest) (goes : set.contains c = true) :
    place.reach set = (place.pass 1).reach set + 1 := by
  rw [reach, reach, pass_rest, stands, List.takeWhile_cons_of_pos goes]
  rfl

/-- The characters of a set that come next, when the one after them is none of it. -/
theorem reach_eq_length (stands : place.rest = inside ++ outside)
    (goes : ∀ c ∈ inside, set.contains c = true)
    (stops : ∀ c ∈ outside.head?, set.contains c = false) : place.reach set = inside.length := by
  induction inside generalizing place with
  | nil => exact reach_of_outside (by rwa [stands])
  | cons c inside ih =>
      have next : (place.pass 1).rest = inside ++ outside := by rw [pass_rest, stands]; rfl
      rw [reach_of_inside stands (goes c List.mem_cons_self),
        ih next fun d member => goes d (List.mem_cons_of_mem c member)]
      rfl

theorem reach_le (set : CharSet) (place : Place) : place.reach set ≤ place.rest.length :=
  (List.takeWhile_prefix _).length_le

theorem take_reach (set : CharSet) (place : Place) :
    place.rest.take (place.reach set) = place.rest.takeWhile set.contains :=
  (List.prefix_iff_eq_take.mp (List.takeWhile_prefix _)).symm

theorem inside_of_mem_take_reach :
    ∀ c ∈ place.rest.take (place.reach set), set.contains c = true := by
  rw [take_reach]
  exact fun c member => List.mem_takeWhile_imp member

theorem head?_pass_reach (set : CharSet) (place : Place) :
    ∀ c ∈ (place.pass (place.reach set)).rest.head?, set.contains c = false := by
  have cut : place.rest.drop (place.reach set) = place.rest.dropWhile set.contains := by
    have split := List.takeWhile_append_dropWhile (p := set.contains) (l := place.rest)
    rw [← take_reach] at split
    exact (List.append_cancel_left (split.trans (List.take_append_drop _ _).symm)).symm
  rw [pass_rest, cut]
  exact Text.dropWhile_head_stays set.contains place.rest

theorem inside_of_lt_reach (before : count < place.reach set) :
    ∃ c ∈ (place.pass count).rest.head?, set.contains c = true := by
  have begins : List.IsPrefix (place.rest.takeWhile set.contains) place.rest := List.takeWhile_prefix _
  refine ⟨(place.rest.takeWhile set.contains)[count], ?_, ?_⟩
  · rw [pass_rest, List.head?_drop, List.IsPrefix.getElem begins before]
    exact List.getElem?_eq_getElem _
  · exact List.mem_takeWhile_imp (List.getElem_mem before)

theorem step_eq (stands : place.rest = c :: rest) :
    place.step set = if set.contains c then [place.pass 1] else [] := by
  simp only [step, pass, stands, List.drop_one, List.tail_cons]

theorem run_eq (place : Place) (passed : List Place) (rest : List Char)
    (stands : place.rest = rest) :
    place.run set passed rest = (place.through (place.reach set)).tail.reverse ++ passed := by
  -- A run adds the places that it passes at the front, so the farthest one comes first.
  induction rest generalizing place passed with
  | nil =>
      rw [reach, stands]
      rfl
  | cons c rest ih =>
      cases goes : set.contains c with
      | false =>
          have stops : ∀ d ∈ place.rest.head?, set.contains d = false := by
            rintro d first
            rw [stands] at first
            cases first
            exact goes
          rw [run, goes, reach_of_outside stops]
          rfl
      | true =>
          have next : ({ place with offset := place.offset + 1, rest } : Place) = place.pass 1 := by
            simp only [pass, stands, List.drop_one, List.tail_cons]
          have rest_eq : (place.pass 1).rest = rest := by rw [pass_rest, stands]; rfl
          obtain ⟨farther, more⟩ := (place.pass 1).through_eq_cons ((place.pass 1).reach set)
          rw [run, goes, if_pos rfl]
          dsimp only
          rw [next, ih (place.pass 1) _ rest_eq, reach_of_inside stands goes, through,
            List.tail_cons, more, List.tail_cons, List.reverse_cons, List.append_assoc]
          rfl

end Place

namespace Pattern

variable {set : CharSet} {place : Place} {pattern second third : Pattern} {piece : List Char}

/-!
## One equation for each kind of pattern
-/

theorem ends_empty (place : Place) : Pattern.empty.ends place = [place] := rfl

theorem ends_char (set : CharSet) (place : Place) :
    (Pattern.char set).ends place = place.step set := rfl

theorem ends_sequence (first second : Pattern) (place : Place) :
    (Pattern.sequence first second).ends place = (first.ends place).flatMap second.ends := rfl

theorem ends_choice (first second : Pattern) (place : Place) :
    (Pattern.choice first second).ends place = first.ends place ++ second.ends place := rfl

theorem ends_optional (inner : Pattern) (isGreedy : Bool) (place : Place) :
    (Pattern.optional inner isGreedy).ends place =
      prefer isGreedy (inner.ends place) [place] := rfl

theorem ends_run (set : CharSet) (isGreedy : Bool) (place : Place) :
    (Pattern.repeated (.char set) isGreedy).ends place =
      if isGreedy then place.run set [] place.rest
      else (place.run set [] place.rest).reverse := rfl

theorem ends_named (name : String) (inner : Pattern) (place : Place) :
    (Pattern.named name inner).ends place =
      (inner.ends place).map fun next => next.name name place := rfl

/-!
## The ends of texts and repeated sets
-/

theorem ends_one (c : Char) (place : Place) :
    (one c).ends place = if [c] <+: place.rest then [place.pass 1] else [] := by
  rw [one, ends_char]
  cases stands : place.rest with
  | nil => simp [Place.step, stands]
  | cons d rest =>
      have starts : [c] <+: d :: rest ↔ (CharSet.range c c).contains d = true := by
        rw [CharSet.contains_single, List.cons_prefix_cons, and_iff_left List.nil_prefix, eq_comm]
      rw [Place.step_eq stands, if_congr starts rfl rfl]

theorem characters_cons_cons (c d : Char) (piece : List Char) :
    characters (c :: d :: piece) = .sequence (one c) (characters (d :: piece)) := rfl

theorem ends_characters (piece : List Char) (place : Place) :
    (characters piece).ends place =
      if piece <+: place.rest then [place.pass piece.length] else [] := by
  induction piece generalizing place with
  | nil => simp [characters, ends_empty]
  | cons c piece ih =>
      cases piece with
      | nil => exact ends_one c place
      | cons d piece =>
          have cut : c :: d :: piece <+: place.rest ↔
              [c] <+: place.rest ∧ d :: piece <+: (place.pass 1).rest := by
            rw [Place.pass_rest]
            cases place.rest with
            | nil => simp
            | cons first rest => simp [List.cons_prefix_cons]
          rw [characters_cons_cons, ends_sequence, ends_one, if_congr cut rfl rfl,
            ite_and]
          split
          · rw [List.flatMap_singleton, ih, Place.pass_pass, List.length_cons, Nat.add_comm 1]
            rfl
          · rfl

theorem ends_repeated (set : CharSet) (place : Place) :
    (Pattern.repeated (.char set) true).ends place =
      (place.through (place.reach set)).tail.reverse := by
  rw [ends_run, if_pos rfl, Place.run_eq place [] place.rest rfl, List.append_nil]

theorem ends_many_greedy (set : CharSet) (place : Place) :
    (many (.char set) true).ends place = (place.through (place.reach set)).reverse := by
  obtain ⟨farther, more⟩ := place.through_eq_cons (place.reach set)
  rw [many, ends_optional, ends_repeated, more, List.reverse_cons]
  rfl

theorem ends_many_lazy (set : CharSet) (place : Place) :
    (many (.char set) false).ends place = place.through (place.reach set) := by
  obtain ⟨farther, more⟩ := place.through_eq_cons (place.reach set)
  rw [many, ends_optional, ends_run, if_neg Bool.false_ne_true,
    Place.run_eq place [] place.rest rfl, List.append_nil, more, List.tail_cons,
    List.reverse_reverse]
  rfl

/-!
## The ends of sequences
-/

theorem ends_text_sequence (s : String) (second : Pattern) (place : Place) :
    (Pattern.sequence (.text s) second).ends place =
      if s.toList <+: place.rest then second.ends (place.pass s.toList.length) else [] := by
  rw [ends_sequence, text, ends_characters]
  split <;> simp

theorem ends_sequence_assoc (place : Place) :
    (Pattern.sequence (.sequence pattern second) third).ends place =
      (Pattern.sequence pattern (.sequence second third)).ends place := by
  rw [ends_sequence, ends_sequence, ends_sequence, List.flatMap_assoc]
  rfl

theorem ends_choice_sequence (place : Place) :
    (Pattern.sequence (.choice pattern second) third).ends place =
      (Pattern.sequence pattern third).ends place ++ (Pattern.sequence second third).ends place := by
  simp only [ends_sequence, ends_choice, List.flatMap_append]

theorem head?_ends_sequence (place : Place) :
    ((Pattern.sequence pattern second).ends place).head? =
      (pattern.ends place).findSome? fun next => (second.ends next).head? := by
  rw [ends_sequence, List.head?_flatMap]

/-- A repeated set passes over all its characters if nothing can follow it earlier. -/
theorem ends_many_sequence (place : Place)
    (barred : ∀ passed < place.reach set, second.ends (place.pass passed) = []) :
    (Pattern.sequence (many (.char set) true) second).ends place =
      second.ends (place.pass (place.reach set)) := by
  rw [ends_sequence, ends_many_greedy]
  cases farthest : place.reach set with
  | zero => simp [Place.through]
  | succ count =>
      have nearer : (place.through count).reverse.flatMap second.ends = [] := by
        rw [List.flatMap_eq_nil_iff]
        intro next member
        obtain ⟨passed, within, rfl⟩ := Place.mem_through.mp (List.mem_reverse.mp member)
        exact barred passed (by omega)
      rw [Place.through_succ, List.reverse_concat, List.flatMap_cons, nearer, List.append_nil]

/-!
## Wildcards in a line
-/

theorem reach_anyChar (unbroken : '\n' ∉ place.rest) :
    place.reach (.allBut (.range '\n' '\n')) = place.rest.length := by
  refine Place.reach_eq_length (List.append_nil _).symm (fun c member => ?_) nofun
  rw [CharSet.contains, Bool.not_eq_true', Bool.eq_false_iff, ne_eq, CharSet.contains_single]
  rintro rfl
  exact unbroken member

theorem ends_anything (unbroken : '\n' ∉ place.rest) :
    anything.ends place = (place.through place.rest.length).reverse := by
  rw [anything, anyChar, ends_many_greedy, reach_anyChar unbroken]

theorem head?_ends_anything (unbroken : '\n' ∉ place.rest) :
    (anything.ends place).head? = some place.finish := by
  rw [ends_anything unbroken, Place.head?_reverse_through]
  rfl

theorem ends_shortest (unbroken : '\n' ∉ place.rest) :
    (many anyChar false).ends place = place.through place.rest.length := by
  rw [anyChar, ends_many_lazy, reach_anyChar unbroken]

/-- A text and then the rest of the line. -/
theorem head?_ends_onward (s : String) (unbroken : '\n' ∉ place.rest) :
    ((Pattern.sequence (.text s) .anything).ends place).head? =
      if s.toList <+: place.rest then some place.finish else none := by
  rw [ends_text_sequence]
  split
  · next starts =>
    rw [head?_ends_anything (Place.unbroken_pass unbroken _), Place.finish_pass starts.length_le]
  · rfl

/-- Where all answers are the same, any one of them is the first. -/
theorem findSome?_of_agree {f : Place → Option Place} {places : List Place} {next stop : Place}
    (member : next ∈ places) (answers : f next = some stop)
    (agree : ∀ other ∈ places, ∀ stop' ∈ f other, stop' = stop) :
    places.findSome? f = some stop := by
  cases first : places.findSome? f with
  | none =>
      have silent := List.findSome?_eq_none_iff.mp first next member
      rw [answers] at silent
      cases silent
  | some stop' =>
      obtain ⟨other, inside, answers'⟩ := List.exists_of_findSome?_eq_some first
      rw [agree other inside stop' answers']

/-- A text somewhere ahead and then the rest of the line. -/
theorem head?_ends_ahead (s : String) (unbroken : '\n' ∉ place.rest) :
    ((Pattern.sequence .anything (.sequence (.text s) .anything)).ends place).head? =
      if s.toList <:+: place.rest then some place.finish else none := by
  have on_the_way : ∀ next ∈ (place.through place.rest.length).reverse,
      ((Pattern.sequence (.text s) .anything).ends next).head? =
        if s.toList <+: next.rest then some place.finish else none := by
    intro next member
    obtain ⟨passed, within, rfl⟩ := Place.mem_through.mp (List.mem_reverse.mp member)
    rw [head?_ends_onward s (Place.unbroken_pass unbroken _), Place.finish_pass within]
  rw [head?_ends_sequence, ends_anything unbroken]
  split
  · next occurs =>
    obtain ⟨before, after, joined⟩ := occurs
    have starts : s.toList <+: (place.pass before.length).rest :=
      ⟨after, by rw [Place.pass_rest, ← joined, List.append_assoc, List.drop_left]⟩
    have reached : place.pass before.length ∈ (place.through place.rest.length).reverse := by
      refine List.mem_reverse.mpr (Place.mem_through.mpr ⟨_, ?_, rfl⟩)
      rw [← joined, List.length_append, List.length_append]
      omega
    refine findSome?_of_agree reached (by rw [on_the_way _ reached, if_pos starts]) ?_
    intro other member stop ended
    rw [on_the_way other member, Option.mem_def, Option.ite_none_right_eq_some] at ended
    exact (Option.some.inj ended.2).symm
  · next absent =>
    rw [List.findSome?_eq_none_iff]
    intro next member
    obtain ⟨passed, within, rfl⟩ := Place.mem_through.mp (List.mem_reverse.mp member)
    rw [on_the_way _ member, if_neg]
    exact fun starts => absent (starts.isInfix.trans (List.drop_suffix _ _).isInfix)

end Pattern

end ThrowawayServer
