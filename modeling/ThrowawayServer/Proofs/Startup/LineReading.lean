import ThrowawayServer.Proofs.Text.Utf8
import ThrowawayServer.Startup.LineReader

/-!
# The lines of a stream

What a reader tells of its stream depends on the bytes alone and not on the pieces in which they
come. It tells the text of one line after the other as long as the lines are UTF-8. The first line
that is not is the last one that it looks at: for the classifier, the stream ends there.
-/

set_option autoImplicit false

namespace ThrowawayServer

/-- The lines of a stream that a line feed ends, without it. -/
def feedLines (bytes : List UInt8) : List (List UInt8) := (bytes.splitOn 0x0A).dropLast

/-- What follows the last line feed of a stream. -/
def lastLine (bytes : List UInt8) : List UInt8 := (bytes.splitOn 0x0A).getLastD []

/-- A line without the carriage return at its end. -/
def dropReturn (line : List UInt8) : List UInt8 :=
  if line.getLast? = some 0x0D then line.dropLast else line

def endedLines (bytes : List UInt8) : List (List UInt8) := (feedLines bytes).map dropReturn

/-- The lines of a stream that has come to its end. -/
def allLines (bytes : List UInt8) : List (List UInt8) :=
  endedLines bytes ++ if lastLine bytes = [] then [] else [lastLine bytes]

def IsUtf8 (bytes : List UInt8) : Prop := ∃ text, bytes = Text.encodeUtf8 text

/-- What is told of some lines, and then of what follows them. -/
def telling (next : List StreamEvent) : List (List UInt8) → List StreamEvent
  | [] => next
  | line :: lines =>
    match Text.decodeUtf8? line with
    | none => [.ended]
    | some text => .line text :: telling next lines

variable {bytes line rest : List UInt8} {lines more : List (List UInt8)} {text : List Char}
  {next other : List StreamEvent}

/-- A stream is a line with its line feed and a stream again, or it has no line feed. -/
theorem lines_induction {motive : List UInt8 → Prop}
    (unended : ∀ bytes, 0x0A ∉ bytes → motive bytes)
    (ended : ∀ line rest, 0x0A ∉ line → motive rest → motive (line ++ 0x0A :: rest))
    (bytes : List UInt8) : motive bytes := by
  -- By induction on the length: what follows the first line feed is shorter.
  generalize size : bytes.length = count
  induction count using Nat.strongRecOn generalizing bytes with
  | ind count ih =>
      by_cases feed : 0x0A ∈ bytes
      · obtain ⟨line, rest, rfl, absent⟩ := List.eq_append_cons_of_mem feed
        have shorter : rest.length < count := by
          rw [← size, List.length_append, List.length_cons]
          omega
        exact ended line rest absent (ih rest.length shorter rest rfl)
      · exact unended bytes feed

theorem not_feed (absent : 0x0A ∉ bytes) : ∀ byte ∈ bytes, (byte == 0x0A) = false := by
  rintro _ member
  refine beq_false_of_ne ?_
  rintro rfl
  exact absent member

theorem splitOn_of_not_mem (absent : 0x0A ∉ bytes) : bytes.splitOn 0x0A = [bytes] :=
  List.splitOnP_eq_singleton (not_feed absent)

theorem splitOn_append_feed (absent : 0x0A ∉ line) :
    (line ++ 0x0A :: rest).splitOn 0x0A = line :: rest.splitOn 0x0A :=
  List.splitOnP_append_cons_of_forall_mem (not_feed absent) 0x0A rfl rest

theorem endedLines_of_not_mem (absent : 0x0A ∉ bytes) : endedLines bytes = [] := by
  rw [endedLines, feedLines, splitOn_of_not_mem absent]
  rfl

theorem endedLines_append_feed (absent : 0x0A ∉ line) :
    endedLines (line ++ 0x0A :: rest) = dropReturn line :: endedLines rest := by
  rw [endedLines, feedLines, splitOn_append_feed absent,
    List.dropLast_cons_of_ne_nil (List.splitOn_ne_nil _ _)]
  rfl

theorem lastLine_of_not_mem (absent : 0x0A ∉ bytes) : lastLine bytes = bytes := by
  rw [lastLine, splitOn_of_not_mem absent]
  rfl

theorem lastLine_append_feed (absent : 0x0A ∉ line) :
    lastLine (line ++ 0x0A :: rest) = lastLine rest := by
  rw [lastLine, splitOn_append_feed absent, lastLine]
  obtain ⟨first, lines, split⟩ := List.exists_cons_of_ne_nil (List.splitOn_ne_nil 0x0A rest)
  rw [split]
  rfl

theorem decodeUtf8?_eq_none_iff : Text.decodeUtf8? bytes = none ↔ ¬IsUtf8 bytes := by
  rw [Option.eq_none_iff_forall_ne_some, IsUtf8, not_exists]
  exact forall_congr' fun text => not_congr Text.decodeUtf8?_eq_some_iff

/-!
## What is told
-/

theorem telling_append (next : List StreamEvent) (lines more : List (List UInt8)) :
    telling next (lines ++ more) = telling (telling next more) lines := by
  induction lines with
  | nil => rfl
  | cons line lines ih =>
      rw [List.cons_append, telling, telling]
      split
      · rfl
      · rw [ih]

theorem telling_texts (next : List StreamEvent) (texts : List (List Char)) :
    telling next (texts.map Text.encodeUtf8) = texts.map .line ++ next := by
  induction texts with
  | nil => rfl
  | cons text texts ih =>
      simp only [List.map_cons, telling, Text.decodeUtf8?_encodeUtf8, ih, List.cons_append]

theorem telling_broken (broken : ¬IsUtf8 line) : telling next (line :: lines) = [.ended] := by
  rw [telling, decodeUtf8?_eq_none_iff.mpr broken]

/-- Lines are the texts of some, and then nothing or a line that is broken. -/
theorem exists_texts (lines : List (List UInt8)) :
    ∃ (texts : List (List Char)) (left : List (List UInt8)),
      lines = texts.map Text.encodeUtf8 ++ left ∧
        (left = [] ∨ ∃ line later, left = line :: later ∧ ¬IsUtf8 line) := by
  induction lines with
  | nil => exact ⟨[], [], rfl, .inl rfl⟩
  | cons line lines ih =>
      by_cases valid : IsUtf8 line
      · obtain ⟨text, rfl⟩ := valid
        obtain ⟨texts, left, rfl, broken⟩ := ih
        exact ⟨text :: texts, left, rfl, broken⟩
      · exact ⟨[], line :: lines, rfl, .inr ⟨line, lines, rfl, valid⟩⟩

theorem isUtf8_of_mem_texts {texts : List (List Char)}
    (member : line ∈ texts.map Text.encodeUtf8) : IsUtf8 line := by
  obtain ⟨text, -, rfl⟩ := List.mem_map.mp member
  exact ⟨text, rfl⟩

theorem valid_or_broken (lines : List (List UInt8)) :
    (∀ line ∈ lines, IsUtf8 line) ∨ ∃ line ∈ lines, ¬IsUtf8 line := by
  by_cases valid : ∀ line ∈ lines, IsUtf8 line
  · exact .inl valid
  · exact .inr (by simpa using valid)

theorem not_broken (valid : ∀ line ∈ lines, IsUtf8 line) : ¬∃ line ∈ lines, ¬IsUtf8 line :=
  fun ⟨line, member, notUtf8⟩ => notUtf8 (valid line member)

theorem exists_texts_of_valid (valid : ∀ line ∈ lines, IsUtf8 line) :
    ∃ texts : List (List Char), lines = texts.map Text.encodeUtf8 := by
  obtain ⟨texts, left, rfl, rfl | ⟨line, later, rfl, notUtf8⟩⟩ := exists_texts lines
  · exact ⟨texts, List.append_nil _⟩
  · exact absurd (valid line (List.mem_append_right _ (List.mem_cons_self))) notUtf8

theorem exists_texts_of_broken (broken : ∃ line ∈ lines, ¬IsUtf8 line) :
    ∃ (texts : List (List Char)) (line : List UInt8) (later : List (List UInt8)),
      lines = texts.map Text.encodeUtf8 ++ line :: later ∧ ¬IsUtf8 line := by
  obtain ⟨texts, left, rfl, rfl | ⟨line, later, rfl, notUtf8⟩⟩ := exists_texts lines
  · obtain ⟨line, member, notUtf8⟩ := broken
    rw [List.append_nil] at member
    exact absurd (isUtf8_of_mem_texts member) notUtf8
  · exact ⟨texts, line, later, rfl, notUtf8⟩

theorem telling_up_to_broken (next : List StreamEvent) (texts : List (List Char))
    (notUtf8 : ¬IsUtf8 line) (later : List (List UInt8)) :
    telling next (texts.map Text.encodeUtf8 ++ line :: later) = texts.map .line ++ [.ended] := by
  rw [telling_append, telling_texts, telling_broken notUtf8]

theorem telling_of_valid (valid : ∀ line ∈ lines, IsUtf8 line) (next : List StreamEvent) :
    telling next lines = telling [] lines ++ next := by
  obtain ⟨texts, rfl⟩ := exists_texts_of_valid valid
  rw [telling_texts, telling_texts, List.append_nil]

theorem telling_of_broken (broken : ∃ line ∈ lines, ¬IsUtf8 line) (next other : List StreamEvent) :
    telling next lines = telling other lines := by
  obtain ⟨texts, line, later, rfl, notUtf8⟩ := exists_texts_of_broken broken
  rw [telling_up_to_broken next texts notUtf8, telling_up_to_broken other texts notUtf8]

theorem ended_mem_telling :
    .ended ∈ telling next lines ↔ .ended ∈ next ∨ ∃ line ∈ lines, ¬IsUtf8 line := by
  rcases valid_or_broken lines with valid | broken
  · rw [or_iff_left (not_broken valid)]
    obtain ⟨texts, rfl⟩ := exists_texts_of_valid valid
    rw [telling_texts]
    simp
  · refine iff_of_true ?_ (.inr broken)
    obtain ⟨texts, line, later, rfl, notUtf8⟩ := exists_texts_of_broken broken
    rw [telling_up_to_broken next texts notUtf8]
    exact List.mem_append_right _ (List.mem_singleton.mpr rfl)

namespace LineReader

variable {reader : LineReader}

theorem lineText?_eq (pending : List UInt8) :
    lineText? pending = Text.decodeUtf8? (dropReturn pending.reverse) := by
  cases pending with
  | nil => rfl
  | cons byte rest =>
      rw [dropReturn, List.reverse_cons, List.getLast?_concat, List.dropLast_concat]
      by_cases feed : byte = 0x0D
      · subst feed
        rfl
      · have different : some byte ≠ some 0x0D := fun same => feed (Option.some.inj same)
        rw [if_neg different, ← List.reverse_cons, lineText?]
        intro rest same
        cases same
        exact feed rfl

theorem read_of_stopped (isStopped : reader.isStopped = true) (bytes : List UInt8) :
    reader.read bytes = (reader, []) := by
  cases bytes with
  | nil => rfl
  | cons byte bytes => rw [read, if_pos isStopped]

theorem read_feed (reads : reader.isStopped = false) (rest : List UInt8) :
    reader.read (0x0A :: rest) =
      match lineText? reader.pending with
      | none => (stopped, [.ended])
      | some text => ((read {} rest).1, .line text :: (read {} rest).2) := by
  rw [read, reads]
  rfl

theorem read_byte (reads : reader.isStopped = false) {byte : UInt8} (different : byte ≠ 0x0A)
    (rest : List UInt8) :
    reader.read (byte :: rest) = read { reader with pending := byte :: reader.pending } rest := by
  rw [read, reads]
  exact if_neg different

theorem read_of_not_mem (reads : reader.isStopped = false) (absent : 0x0A ∉ line)
    (rest : List UInt8) :
    reader.read (line ++ rest) =
      read { reader with pending := line.reverse ++ reader.pending } rest := by
  induction line generalizing reader with
  | nil => rfl
  | cons byte line ih =>
      obtain ⟨different, absent⟩ := List.ne_and_not_mem_of_not_mem_cons absent
      let next : LineReader := { reader with pending := byte :: reader.pending }
      have read : next.read (line ++ rest) = _ := ih reads absent
      rw [List.cons_append, read_byte reads different.symm, read, List.reverse_cons,
        List.append_assoc]
      rfl

/-- It does not matter in which pieces a stream is read. -/
theorem read_append (reader : LineReader) (bytes more : List UInt8) :
    reader.read (bytes ++ more) =
      (((reader.read bytes).1.read more).1,
        (reader.read bytes).2 ++ ((reader.read bytes).1.read more).2) := by
  induction bytes generalizing reader with
  | nil => rfl
  | cons byte bytes ih =>
      cases reads : reader.isStopped with
      | true =>
          rw [read_of_stopped reads, read_of_stopped reads, read_of_stopped reads]
          rfl
      | false =>
          by_cases feed : byte = 0x0A
          · subst feed
            rw [List.cons_append, read_feed reads, read_feed reads]
            cases lineText? reader.pending with
            | none =>
                have silent : stopped.read more = (stopped, []) := read_of_stopped rfl more
                simp only [silent, List.append_nil]
            | some text => simp only [ih, List.cons_append]
          · rw [List.cons_append, read_byte reads feed, read_byte reads feed, ih]

theorem read_unended (absent : 0x0A ∉ bytes) :
    read {} bytes = ({ pending := bytes.reverse }, []) := by
  have reading : read {} (bytes ++ []) = _ := read_of_not_mem rfl absent []
  rwa [List.append_nil, List.append_nil] at reading

theorem read_line (absent : 0x0A ∉ line) (rest : List UInt8) :
    read {} (line ++ 0x0A :: rest) =
      match Text.decodeUtf8? (dropReturn line) with
      | none => (stopped, [.ended])
      | some text => ((read {} rest).1, .line text :: (read {} rest).2) := by
  rw [read_of_not_mem rfl absent, read_feed rfl]
  simp only [List.append_nil, lineText?_eq, List.reverse_reverse]

theorem read_told (bytes : List UInt8) : (read {} bytes).2 = telling [] (endedLines bytes) := by
  induction bytes using lines_induction with
  | unended bytes absent => rw [read_unended absent, endedLines_of_not_mem absent, telling]
  | ended line rest absent ih =>
      rw [read_line absent, endedLines_append_feed absent, telling]
      cases Text.decodeUtf8? (dropReturn line) with
      | none => rfl
      | some text => simp only [ih]

theorem read_reader (valid : ∀ line ∈ endedLines bytes, IsUtf8 line) :
    (read {} bytes).1 = { pending := (lastLine bytes).reverse } := by
  induction bytes using lines_induction with
  | unended bytes absent => rw [read_unended absent, lastLine_of_not_mem absent]
  | ended line rest absent ih =>
      rw [endedLines_append_feed absent] at valid
      obtain ⟨⟨text, same⟩, valid⟩ := List.forall_mem_cons.mp valid
      rw [read_line absent, same, Text.decodeUtf8?_encodeUtf8, lastLine_append_feed absent]
      exact ih valid

theorem read_broken (broken : ∃ line ∈ endedLines bytes, ¬IsUtf8 line) :
    (read {} bytes).1 = stopped := by
  induction bytes using lines_induction with
  | unended bytes absent =>
      rw [endedLines_of_not_mem absent] at broken
      obtain ⟨_, member, -⟩ := broken
      cases member
  | ended line rest absent ih =>
      rw [endedLines_append_feed absent] at broken
      rw [read_line absent]
      cases decoded : Text.decodeUtf8? (dropReturn line) with
      | none => rfl
      | some text =>
          obtain ⟨first, member, notUtf8⟩ := broken
          rcases List.mem_cons.mp member with rfl | member
          · rw [decodeUtf8?_eq_none_iff.mpr notUtf8] at decoded
            cases decoded
          · exact ih ⟨first, member, notUtf8⟩

theorem close_reader (reader : LineReader) : reader.close.1.isStopped = true := by
  rw [close]
  split
  · next isStopped => exact isStopped
  · split
    · rfl
    · split <;> rfl

theorem close_pending (line : List UInt8) :
    (close { pending := line.reverse }).2 =
      telling [.ended] (if line = [] then [] else [line]) := by
  by_cases empty : line = []
  · subst empty
    rfl
  · have filled : line.reverse.isEmpty = false := by simpa using empty
    rw [if_neg empty, telling, close]
    simp only [filled, List.reverse_reverse]
    cases Text.decodeUtf8? line <;> rfl

theorem close_told (bytes : List UInt8) :
    (read {} bytes).2 ++ (read {} bytes).1.close.2 = telling [.ended] (allLines bytes) := by
  rw [read_told, allLines, telling_append]
  rcases valid_or_broken (endedLines bytes) with valid | broken
  · rw [read_reader valid, close_pending, telling_of_valid valid (telling _ _)]
  · have silent : stopped.close.2 = [] := rfl
    rw [read_broken broken, silent, List.append_nil, telling_of_broken broken]

example : telling [.ended] (allLines [0x75, 0x70, 0x0D, 0x0A, 0x6F, 0x6B]) =
    [.line ['u', 'p'], .line ['o', 'k'], .ended] := by
  decide

end LineReader

end ThrowawayServer
