import ThrowawayServer.Text.Numeral

/-!
# Which texts are numerals

A numeral is an optional plus sign and one or more digits. A reader with a limit accepts exactly the
numerals whose value is within it and gives that value, however many zeros they begin with. The digits
that are printed for a number are a numeral of that number.
-/

set_option autoImplicit false

namespace ThrowawayServer.Text

/-- An optional plus sign and one or more digits, with what the digits come to. -/
inductive Numeral : List Char → Nat → Prop where
  | plain {text : List Char} (nonempty : text ≠ []) (digits : ∀ c ∈ text, c.isDigit) :
      Numeral text (Nat.ofDigitChars 10 text 0)
  | signed {text : List Char} (nonempty : text ≠ []) (digits : ∀ c ∈ text, c.isDigit) :
      Numeral ('+' :: text) (Nat.ofDigitChars 10 text 0)

variable {limit start value : Nat} {first : Char} {text : List Char}

namespace Numeral

theorem char (numeral : Numeral text value) : ∀ c ∈ text, c.isDigit ∨ c = '+' := by
  intro c member
  cases numeral with
  | plain nonempty digits => exact .inl (digits c member)
  | signed nonempty digits =>
      rcases List.mem_cons.mp member with rfl | member
      · exact .inr rfl
      · exact .inl (digits c member)

theorem nonempty (numeral : Numeral text value) : text ≠ [] := by
  cases numeral with
  | plain nonempty => exact nonempty
  | signed => exact List.cons_ne_nil _ _

theorem not_mem {mark : Char} (numeral : Numeral text value) (noDigit : mark.isDigit = false)
    (noSign : mark ≠ '+') : mark ∉ text := by
  intro member
  rcases numeral.char mark member with digit | sign
  · exact Bool.false_ne_true (noDigit.symm.trans digit)
  · exact noSign sign

theorem signed_iff :
    Numeral ('+' :: text) value ↔
      text ≠ [] ∧ (∀ c ∈ text, c.isDigit) ∧ Nat.ofDigitChars 10 text 0 = value := by
  constructor
  · intro numeral
    cases numeral with
    | plain _ digits => exact absurd (digits '+' List.mem_cons_self) (by decide)
    | signed nonempty digits => exact ⟨nonempty, digits, rfl⟩
  · rintro ⟨nonempty, digits, rfl⟩
    exact .signed nonempty digits

theorem unsigned_iff (unsigned : first ≠ '+') :
    Numeral (first :: text) value ↔
      (∀ c ∈ first :: text, c.isDigit) ∧ Nat.ofDigitChars 10 (first :: text) 0 = value := by
  constructor
  · intro numeral
    cases numeral with
    | plain _ digits => exact ⟨digits, rfl⟩
    | signed => exact absurd rfl unsigned
  · rintro ⟨digits, rfl⟩
    exact .plain (List.cons_ne_nil _ _) digits

theorem isDigit_of_mem_repr {n : Nat} {c : Char} (member : c ∈ n.repr.toList) : c.isDigit :=
  Nat.isDigit_of_mem_toDigits (by decide) (by decide) (Nat.toList_repr ▸ member)

/-- What is printed for a number is a numeral of it. -/
theorem repr (n : Nat) : Numeral n.repr.toList n := by
  have digits : ∀ c ∈ n.repr.toList, c.isDigit := fun c => isDigit_of_mem_repr
  have nonempty : n.repr.toList ≠ [] := by
    rw [Nat.toList_repr]
    exact Nat.toDigits_ne_nil
  have printed : Nat.ofDigitChars 10 n.repr.toList 0 = n := by
    rw [Nat.toList_repr, Nat.ofDigitChars_ten_toDigits]
  simpa only [printed] using Numeral.plain nonempty digits

end Numeral

/-!
## Readers
-/

theorem isDigit_iff_range {c : Char} : c.isDigit ↔ ('0' ≤ c && c ≤ '9') = true := by
  rw [Char.isDigit_iff_toNat, Bool.and_eq_true, decide_eq_true_eq, decide_eq_true_eq, Char.le_def,
    Char.le_def, UInt32.le_iff_toNat_le, UInt32.le_iff_toNat_le]
  rfl

theorem digitValue?_of_digit {c : Char} (digit : c.isDigit) :
    digitValue? 10 c = some (c.toNat - '0'.toNat) := by
  have small : c.toNat - '0'.toNat < 10 := by
    have high : c.toNat ≤ 57 := (Char.isDigit_iff_toNat.mp digit).2
    have zero : '0'.toNat = 48 := rfl
    omega
  rw [digitValue?, if_pos (isDigit_iff_range.mp digit)]
  exact if_pos small

theorem isDigit_of_digitValue? {c : Char} {digit : Nat} (read : digitValue? 10 c = some digit) :
    c.isDigit := by
  simp only [digitValue?, Option.bind_eq_some_iff] at read
  obtain ⟨letter, read, small⟩ := read
  split at read
  · next range => exact isDigit_iff_range.mpr range
  -- A letter stands for ten at least.
  · split at read
    · cases read
      split at small <;> first | omega | cases small
    · split at read
      · cases read
        split at small <;> first | omega | cases small
      · cases read

/-- More digits never make a number smaller. -/
theorem le_ofDigitChars (text : List Char) (start : Nat) : start ≤ Nat.ofDigitChars 10 text start := by
  induction text generalizing start with
  | nil => exact Nat.le_refl start
  | cons first rest ih =>
      rw [Nat.ofDigitChars_cons]
      have grown := ih (10 * start + (first.toNat - '0'.toNat))
      omega

theorem readDigits_eq_ok_iff (bounded : start ≤ limit) :
    readDigits 10 limit start text = .ok value ↔
      (∀ c ∈ text, c.isDigit) ∧ Nat.ofDigitChars 10 text start = value ∧ value ≤ limit := by
  induction text generalizing start with
  | nil =>
      rw [readDigits, Nat.ofDigitChars_nil, Except.ok.injEq]
      constructor
      · rintro rfl
        exact ⟨fun _ member => (nomatch member), rfl, bounded⟩
      · exact fun ⟨_, same, _⟩ => same
  | cons first rest ih =>
      rw [readDigits, Nat.ofDigitChars_cons, List.forall_mem_cons, and_assoc]
      cases digit : first.isDigit with
      | false =>
          have unread : digitValue? 10 first = none := by
            rw [Option.eq_none_iff_forall_ne_some]
            exact fun value read => Bool.false_ne_true (digit.symm.trans (isDigit_of_digitValue? read))
          rw [unread]
          simp
      | true =>
          rw [digitValue?_of_digit digit]
          dsimp only
          rw [Nat.mul_comm start 10]
          split
          · next within =>
            rw [ih within]
            exact (and_iff_right rfl).symm
          · next beyond =>
            -- The digits that follow cannot bring the number back below the limit.
            have grown := le_ofDigitChars rest (10 * start + (first.toNat - '0'.toNat))
            simp only [reduceCtorEq, true_and, false_iff]
            rintro ⟨_, rfl, small⟩
            exact beyond (Nat.le_trans grown small)

theorem readNumeral_eq_ok_iff :
    readNumeral 10 limit text = .ok value ↔ Numeral text value ∧ value ≤ limit := by
  unfold readNumeral
  split
  · simp only [reduceCtorEq, false_iff]
    exact fun read => read.1.nonempty rfl
  · simp only [reduceCtorEq, false_iff, Numeral.signed_iff]
    exact fun read => read.1.1 rfl
  · next digits nonempty =>
    rw [readDigits_eq_ok_iff (Nat.zero_le limit), Numeral.signed_iff, and_assoc, and_assoc]
    exact (and_iff_right (by simpa using nonempty)).symm
  · next nonempty _ unsigned =>
    obtain ⟨first, rest, rfl⟩ := List.exists_cons_of_ne_nil nonempty
    have noSign : first ≠ '+' := fun sign => unsigned rest (sign ▸ rfl)
    rw [readDigits_eq_ok_iff (Nat.zero_le limit), Numeral.unsigned_iff noSign, and_assoc]

/-- A word read from a numeral has the value of the numeral. -/
theorem readUInt32_eq_ok_iff_readNumeral {word : UInt32} :
    readUInt32 text = .ok word ↔ readNumeral 10 (UInt32.size - 1) text = .ok word.toNat := by
  rw [readUInt32]
  cases read : readNumeral 10 (UInt32.size - 1) text with
  | error error => exact ⟨nofun, nofun⟩
  | ok value =>
      have small : value < UInt32.size :=
        Nat.lt_of_le_pred (by decide) (readNumeral_eq_ok_iff.mp read).2
      rw [Except.map, Except.ok.injEq, Except.ok.injEq]
      constructor
      · rintro rfl
        exact (UInt32.toNat_ofNat_of_lt' small).symm
      · rintro rfl
        exact UInt32.ofNat_toNat

theorem readUInt32_eq_ok_iff {word : UInt32} :
    readUInt32 text = .ok word ↔ Numeral text word.toNat := by
  rw [readUInt32_eq_ok_iff_readNumeral, readNumeral_eq_ok_iff]
  exact and_iff_left (Nat.le_pred_of_lt word.toNat_lt)

end ThrowawayServer.Text
