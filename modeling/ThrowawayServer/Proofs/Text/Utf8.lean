import ThrowawayServer.Text.Utf8

/-!
# Well-formed UTF-8

The decoder accepts exactly the bytes that stand for some text, and gives that text. Between it and
the encoder stands `Encodes`, the table of byte sequences for a single code point: the states of the
decoder are followed through it, and the arithmetic is done on it.
-/

set_option autoImplicit false

namespace ThrowawayServer.Text

/-- What a byte that begins a character of several bytes says about it. -/
inductive Leads (byte : UInt8) : Utf8State → Prop where
  | two (low : 0xC2 ≤ byte.toNat) (high : byte.toNat ≤ 0xDF) :
      Leads byte (.inside 1 0x80 0xBF (byte.toNat - 0xC0))
  | three (low : 0xE0 ≤ byte.toNat) (high : byte.toNat ≤ 0xEF) :
      Leads byte (.inside 2 (if byte = 0xE0 then 0xA0 else 0x80)
        (if byte = 0xED then 0x9F else 0xBF) (byte.toNat - 0xE0))
  | four (low : 0xF0 ≤ byte.toNat) (high : byte.toNat ≤ 0xF4) :
      Leads byte (.inside 3 (if byte = 0xF0 then 0x90 else 0x80)
        (if byte = 0xF4 then 0x8F else 0xBF) (byte.toNat - 0xF0))

/-- The bytes of a single code point. -/
inductive Encodes : List UInt8 → Nat → Prop where
  | one {a : UInt8} (ascii : a.toNat < 0x80) : Encodes [a] a.toNat
  | two {a b : UInt8} (lead : 0xC2 ≤ a.toNat ∧ a.toNat ≤ 0xDF)
      (last : 0x80 ≤ b.toNat ∧ b.toNat ≤ 0xBF) :
      Encodes [a, b] ((a.toNat - 0xC0) * 64 + (b.toNat - 0x80))
  | three {a b c : UInt8} (lead : 0xE0 ≤ a.toNat ∧ a.toNat ≤ 0xEF)
      (second : 0x80 ≤ b.toNat ∧ b.toNat ≤ 0xBF)
      (shortest : a.toNat = 0xE0 → 0xA0 ≤ b.toNat) (noSurrogate : a.toNat = 0xED → b.toNat ≤ 0x9F)
      (last : 0x80 ≤ c.toNat ∧ c.toNat ≤ 0xBF) :
      Encodes [a, b, c] (((a.toNat - 0xE0) * 64 + (b.toNat - 0x80)) * 64 + (c.toNat - 0x80))
  | four {a b c d : UInt8} (lead : 0xF0 ≤ a.toNat ∧ a.toNat ≤ 0xF4)
      (second : 0x80 ≤ b.toNat ∧ b.toNat ≤ 0xBF)
      (shortest : a.toNat = 0xF0 → 0x90 ≤ b.toNat) (inRange : a.toNat = 0xF4 → b.toNat ≤ 0x8F)
      (third : 0x80 ≤ c.toNat ∧ c.toNat ≤ 0xBF) (last : 0x80 ≤ d.toNat ∧ d.toNat ≤ 0xBF) :
      Encodes [a, b, c, d]
        ((((a.toNat - 0xF0) * 64 + (b.toNat - 0x80)) * 64 + (c.toNat - 0x80)) * 64 +
          (d.toNat - 0x80))

variable {byte low high : UInt8} {bytes rest : List UInt8} {text : List Char} {code missing : Nat}
  {state : Utf8State}

/-!
## States of the decoder
-/

theorem leads_of_utf8Lead? (lead : utf8Lead? byte = some state) : Leads byte state := by
  simp only [utf8Lead?, Bool.and_eq_true, decide_eq_true_eq, UInt8.le_iff_toNat_le,
    UInt8.reduceToNat] at lead
  repeat' split at lead
  -- One goal for each test that a byte can pass, in the order of the tests.
  all_goals cases lead
  · next range => exact .two range.1 range.2
  · next same =>
      subst same
      exact .three (by decide) (by decide)
  · next same =>
      subst same
      exact .three (by decide) (by decide)
  · next notE0 notED range =>
      have three : Leads byte _ := .three (by omega) range.2
      rwa [if_neg notE0, if_neg notED] at three
  · next same =>
      subst same
      exact .four (by decide) (by decide)
  · next notF0 range =>
      have notF4 : byte ≠ 0xF4 := by
        rintro rfl
        exact absurd range.2 (by decide)
      have four : Leads byte _ := .four (by omega) (by omega)
      rwa [if_neg notF0, if_neg notF4] at four
  · next same =>
      subst same
      exact .four (by decide) (by decide)

theorem utf8Lead?_of_leads (leads : Leads byte state) : utf8Lead? byte = some state := by
  simp only [utf8Lead?, Bool.and_eq_true, decide_eq_true_eq, UInt8.le_iff_toNat_le,
    UInt8.reduceToNat]
  cases leads with
  | two low high => rw [if_pos ⟨low, high⟩]
  | three low high =>
      rw [if_neg (by omega)]
      by_cases isE0 : byte = 0xE0
      · subst isE0
        rfl
      · by_cases isED : byte = 0xED
        · subst isED
          rfl
        · have above : byte.toNat ≠ 0xE0 := fun same => isE0 (UInt8.toNat_inj.mp same)
          rw [if_neg isE0, if_neg isED, if_pos (by omega), if_neg isE0, if_neg isED]
  | four low high =>
      have notE0 : byte ≠ 0xE0 := by
        rintro rfl
        exact absurd low (by decide)
      have notED : byte ≠ 0xED := by
        rintro rfl
        exact absurd low (by decide)
      rw [if_neg (by omega), if_neg notE0, if_neg notED, if_neg (by omega)]
      by_cases isF0 : byte = 0xF0
      · subst isF0
        rfl
      · by_cases isF4 : byte = 0xF4
        · subst isF4
          rfl
        · have above : byte.toNat ≠ 0xF0 := fun same => isF0 (UInt8.toNat_inj.mp same)
          have below : byte.toNat ≠ 0xF4 := fun same => isF4 (UInt8.toNat_inj.mp same)
          rw [if_neg isF0, if_pos (by omega), if_neg isF0, if_neg isF4]

theorem decodeUtf8From_inside_last :
    decodeUtf8From (.inside 1 low high code) bytes = some text ↔
      ∃ byte rest more, bytes = byte :: rest ∧ (low ≤ byte ∧ byte ≤ high) ∧
        decodeUtf8From .start rest = some more ∧
          text = Char.ofNat (code * 64 + (byte.toNat - 0x80)) :: more := by
  cases bytes with
  | nil => simp [decodeUtf8From]
  | cons byte bytes =>
      simp only [decodeUtf8From, Bool.and_eq_true, decide_eq_true_eq]
      split
      · next within =>
          simp only [Nat.le_refl, if_true, Option.map_eq_some_iff]
          constructor
          · rintro ⟨more, decoded, rfl⟩
            exact ⟨byte, bytes, more, rfl, within, decoded, rfl⟩
          · rintro ⟨_, _, more, same, -, decoded, rfl⟩
            cases same
            exact ⟨more, decoded, rfl⟩
      · next outside =>
          constructor
          · intro decoded
            cases decoded
          · rintro ⟨_, _, _, same, within, -, -⟩
            cases same
            exact absurd within outside

theorem decodeUtf8From_inside_more (several : 1 < missing) :
    decodeUtf8From (.inside missing low high code) bytes = some text ↔
      ∃ byte rest, bytes = byte :: rest ∧ (low ≤ byte ∧ byte ≤ high) ∧
        decodeUtf8From (.inside (missing - 1) 0x80 0xBF (code * 64 + (byte.toNat - 0x80))) rest =
          some text := by
  cases bytes with
  | nil => simp [decodeUtf8From]
  | cons byte bytes =>
      rw [decodeUtf8From]
      simp only [Bool.and_eq_true, decide_eq_true_eq]
      split
      · next within =>
          rw [if_neg (Nat.not_le.mpr several)]
          constructor
          · intro decoded
            exact ⟨byte, bytes, rfl, within, decoded⟩
          · rintro ⟨_, _, same, -, decoded⟩
            cases same
            exact decoded
      · next outside =>
          constructor
          · intro decoded
            cases decoded
          · rintro ⟨_, _, same, within, -⟩
            cases same
            exact absurd within outside

/-!
## One character at a time
-/

theorem low_le_iff {a b bound narrow wide : UInt8} :
    (if a = bound then narrow else wide) ≤ b ↔
      (a.toNat = bound.toNat → narrow.toNat ≤ b.toNat) ∧
        (a.toNat ≠ bound.toNat → wide.toNat ≤ b.toNat) := by
  rw [ne_eq, UInt8.toNat_inj, ← UInt8.le_iff_toNat_le, ← UInt8.le_iff_toNat_le]
  by_cases same : a = bound <;> simp [same]

theorem le_high_iff {a b bound narrow wide : UInt8} :
    (b ≤ if a = bound then narrow else wide) ↔
      (a.toNat = bound.toNat → b.toNat ≤ narrow.toNat) ∧
        (a.toNat ≠ bound.toNat → b.toNat ≤ wide.toNat) := by
  rw [ne_eq, UInt8.toNat_inj, ← UInt8.le_iff_toNat_le, ← UInt8.le_iff_toNat_le]
  by_cases same : a = bound <;> simp [same]

theorem toNat_ofNat_of_valid (valid : code.isValidChar) : (Char.ofNat code).toNat = code := by
  rw [Char.ofNat, dif_pos valid]
  rfl

theorem Encodes.valid (encodes : Encodes bytes code) : code.isValidChar := by
  cases encodes with
  | one ascii => exact .inl (by omega)
  | two lead last => exact .inl (by omega)
  | @three a b c lead second shortest noSurrogate last =>
      by_cases early : a.toNat ≤ 0xED
      · exact .inl (by omega)
      · exact .inr (by omega)
  | four lead second shortest inRange third last => exact .inr (by omega)

theorem Encodes.bytes_eq (encodes : Encodes bytes code) :
    bytes = String.utf8EncodeChar (Char.ofNat code) := by
  have codeIs : (Char.ofNat code).val.toNat = code := toNat_ofNat_of_valid encodes.valid
  simp only [String.utf8EncodeChar, codeIs]
  cases encodes with
  | one ascii =>
      rw [if_pos (by omega)]
      simp
  | two lead last =>
      rw [if_neg (by omega), if_pos (by omega)]
      simp only [List.cons.injEq, ← UInt8.toNat_inj, UInt8.toNat_ofNat']
      exact ⟨by omega, by omega, trivial⟩
  | three lead second shortest noSurrogate last =>
      rw [if_neg (by omega), if_neg (by omega), if_pos (by omega)]
      simp only [List.cons.injEq, ← UInt8.toNat_inj, UInt8.toNat_ofNat']
      exact ⟨by omega, by omega, by omega, trivial⟩
  | four lead second shortest inRange third last =>
      rw [if_neg (by omega), if_neg (by omega), if_neg (by omega)]
      simp only [List.cons.injEq, ← UInt8.toNat_inj, UInt8.toNat_ofNat']
      exact ⟨by omega, by omega, by omega, by omega, trivial⟩

theorem Encodes.congr {other : Nat} (encodes : Encodes bytes code) (same : code = other) :
    Encodes bytes other :=
  same ▸ encodes

theorem encodes_char (char : Char) : Encodes (String.utf8EncodeChar char) char.toNat := by
  have valid : char.toNat < 0xD800 ∨ 0xDFFF < char.toNat ∧ char.toNat < 0x110000 := char.valid
  have toNat_of {n : Nat} (small : n < 256) : (UInt8.ofNat n).toNat = n :=
    UInt8.toNat_ofNat_of_lt' small
  have valIs : char.val.toNat = char.toNat := rfl
  simp only [String.utf8EncodeChar, valIs]
  generalize char.toNat = code at valid
  by_cases ascii : code ≤ 127
  · rw [if_pos ascii]
    have a := toNat_of (n := code) (by omega)
    exact (Encodes.one (by omega)).congr a
  rw [if_neg ascii]
  by_cases short : code ≤ 2047
  · rw [if_pos short]
    have a := toNat_of (n := code / 64 % 32 + 192) (by omega)
    have b := toNat_of (n := code % 64 + 128) (by omega)
    exact (Encodes.two (by omega) (by omega)).congr (by omega)
  rw [if_neg short]
  by_cases middle : code ≤ 65535
  · rw [if_pos middle]
    have a := toNat_of (n := code / 4096 % 16 + 224) (by omega)
    have b := toNat_of (n := code / 64 % 64 + 128) (by omega)
    have c := toNat_of (n := code % 64 + 128) (by omega)
    exact (Encodes.three (by omega) (by omega) (by omega) (by omega) (by omega)).congr (by omega)
  · rw [if_neg middle]
    have a := toNat_of (n := code / 262144 % 8 + 240) (by omega)
    have b := toNat_of (n := code / 4096 % 64 + 128) (by omega)
    have c := toNat_of (n := code / 64 % 64 + 128) (by omega)
    have d := toNat_of (n := code % 64 + 128) (by omega)
    exact (Encodes.four (by omega) (by omega) (by omega) (by omega) (by omega)
      (by omega)).congr (by omega)

theorem decodeUtf8From_start_of_ascii (ascii : byte.toNat < 0x80) :
    decodeUtf8From .start (byte :: bytes) = some text ↔
      ∃ more, decodeUtf8From .start bytes = some more ∧
        text = Char.ofNat byte.toNat :: more := by
  have below : byte < 0x80 := UInt8.lt_iff_toNat_lt.mpr ascii
  simp only [decodeUtf8From, if_pos below, Option.map_eq_some_iff]
  constructor
  · rintro ⟨more, after, rfl⟩
    exact ⟨more, after, rfl⟩
  · rintro ⟨more, after, rfl⟩
    exact ⟨more, after, rfl⟩

theorem decodeUtf8From_start_of_lead (lead : 0x80 ≤ byte.toNat) :
    decodeUtf8From .start (byte :: bytes) = some text ↔
      ∃ state, Leads byte state ∧ decodeUtf8From state bytes = some text := by
  have above : ¬byte < 0x80 := Nat.not_lt.mpr lead
  simp only [decodeUtf8From, if_neg above, Option.bind_eq_some_iff]
  constructor
  · rintro ⟨state, known, decoded⟩
    exact ⟨state, leads_of_utf8Lead? known, decoded⟩
  · rintro ⟨state, leads, decoded⟩
    exact ⟨state, utf8Lead?_of_leads leads, decoded⟩

theorem encodes_of_decoded (decoded : decodeUtf8From .start (byte :: bytes) = some text) :
    ∃ char code rest more, byte :: bytes = char ++ rest ∧ Encodes char code ∧
      decodeUtf8From .start rest = some more ∧ text = Char.ofNat code :: more := by
  rcases Nat.lt_or_ge byte.toNat 0x80 with ascii | lead
  · obtain ⟨more, after, rfl⟩ := (decodeUtf8From_start_of_ascii ascii).mp decoded
    exact ⟨[byte], _, bytes, more, rfl, .one ascii, after, rfl⟩
  obtain ⟨state, leads, inside⟩ := (decodeUtf8From_start_of_lead lead).mp decoded
  cases leads with
  | two low high =>
      obtain ⟨b, rest, more, rfl, last, after, rfl⟩ := decodeUtf8From_inside_last.mp inside
      exact ⟨[byte, b], _, rest, more, rfl, .two ⟨low, high⟩ last, after, rfl⟩
  | three low high =>
      obtain ⟨b, _, rfl, ⟨above, below⟩, inside⟩ :=
        (decodeUtf8From_inside_more (by decide)).mp inside
      obtain ⟨c, rest, more, rfl, last, after, rfl⟩ := decodeUtf8From_inside_last.mp inside
      obtain ⟨shortest, above⟩ := low_le_iff.mp above
      obtain ⟨noSurrogate, below⟩ := le_high_iff.mp below
      simp only [UInt8.reduceToNat] at shortest above noSurrogate below
      exact ⟨[byte, b, c], _, rest, more, rfl,
        .three ⟨low, high⟩ ⟨by omega, by omega⟩ shortest noSurrogate last, after, rfl⟩
  | four low high =>
      obtain ⟨b, _, rfl, ⟨above, below⟩, inside⟩ :=
        (decodeUtf8From_inside_more (by decide)).mp inside
      obtain ⟨c, _, rfl, third, inside⟩ := (decodeUtf8From_inside_more (by decide)).mp inside
      obtain ⟨d, rest, more, rfl, last, after, rfl⟩ := decodeUtf8From_inside_last.mp inside
      obtain ⟨shortest, above⟩ := low_le_iff.mp above
      obtain ⟨inRange, below⟩ := le_high_iff.mp below
      simp only [UInt8.reduceToNat] at shortest above inRange below
      exact ⟨[byte, b, c, d], _, rest, more, rfl,
        .four ⟨low, high⟩ ⟨by omega, by omega⟩ shortest inRange third last, after, rfl⟩

theorem decodeUtf8From_of_encodes {char : List UInt8} (encodes : Encodes char code)
    (after : decodeUtf8From .start rest = some text) :
    decodeUtf8From .start (char ++ rest) = some (Char.ofNat code :: text) := by
  cases encodes with
  | one ascii => exact (decodeUtf8From_start_of_ascii ascii).mpr ⟨text, after, rfl⟩
  | two lead last =>
      exact (decodeUtf8From_start_of_lead (by omega)).mpr ⟨_, .two lead.1 lead.2,
        decodeUtf8From_inside_last.mpr ⟨_, rest, text, rfl, last, after, rfl⟩⟩
  | three lead second shortest noSurrogate last =>
      refine (decodeUtf8From_start_of_lead (by omega)).mpr ⟨_, .three lead.1 lead.2, ?_⟩
      refine (decodeUtf8From_inside_more (by decide)).mpr ⟨_, _, rfl, ⟨?_, ?_⟩, ?_⟩
      · exact low_le_iff.mpr ⟨shortest, fun _ => second.1⟩
      · exact le_high_iff.mpr ⟨noSurrogate, fun _ => second.2⟩
      exact decodeUtf8From_inside_last.mpr ⟨_, rest, text, rfl, last, after, rfl⟩
  | four lead second shortest inRange third last =>
      refine (decodeUtf8From_start_of_lead (by omega)).mpr ⟨_, .four lead.1 lead.2, ?_⟩
      refine (decodeUtf8From_inside_more (by decide)).mpr ⟨_, _, rfl, ⟨?_, ?_⟩, ?_⟩
      · exact low_le_iff.mpr ⟨shortest, fun _ => second.1⟩
      · exact le_high_iff.mpr ⟨inRange, fun _ => second.2⟩
      refine (decodeUtf8From_inside_more (by decide)).mpr ⟨_, _, rfl, third, ?_⟩
      exact decodeUtf8From_inside_last.mpr ⟨_, rest, text, rfl, last, after, rfl⟩

theorem encodeUtf8_cons (char : Char) (text : List Char) :
    encodeUtf8 (char :: text) = String.utf8EncodeChar char ++ encodeUtf8 text :=
  rfl

theorem decodeUtf8?_encodeUtf8 (text : List Char) : decodeUtf8? (encodeUtf8 text) = some text := by
  induction text with
  | nil => rfl
  | cons char text ih =>
      rw [encodeUtf8_cons, decodeUtf8?, decodeUtf8From_of_encodes (encodes_char char) ih,
        Char.ofNat_toNat]

theorem eq_encodeUtf8_of_decoded (decoded : decodeUtf8? bytes = some text) :
    bytes = encodeUtf8 text := by
  induction text generalizing bytes with
  | nil =>
      cases bytes with
      | nil => rfl
      | cons byte bytes =>
          obtain ⟨_, _, _, _, _, _, _, same⟩ := encodes_of_decoded decoded
          cases same
  | cons char text ih =>
      cases bytes with
      | nil => cases decoded
      | cons byte bytes =>
          obtain ⟨_, code, rest, _, whole, encodes, after, same⟩ := encodes_of_decoded decoded
          cases same
          rw [whole, ih after, encodes.bytes_eq, encodeUtf8_cons]

/-- The decoder accepts what the encoder gives, and nothing else. -/
theorem decodeUtf8?_eq_some_iff : decodeUtf8? bytes = some text ↔ bytes = encodeUtf8 text := by
  constructor
  · exact eq_encodeUtf8_of_decoded
  · rintro rfl
    exact decodeUtf8?_encodeUtf8 text

end ThrowawayServer.Text
