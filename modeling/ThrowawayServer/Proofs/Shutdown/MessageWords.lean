import Mathlib.Algebra.Group.Nat.Defs
import ThrowawayServer.Shutdown.Message

/-!
# Words of messages

Where a message holds a word and which number that word is, told by the four bytes at a place alone.
A word is read exactly where all four of them are, also at places next to the largest number of 64
bits, where the end of a word would wrap around to a small one. What is written as a word is read as
that word behind anything and in front of anything.
-/

set_option autoImplicit false

namespace ThrowawayServer.Message

variable {bytes other : Bytes} {place : Nat} {offset : UInt64} {value : Int32}

/-!
## Numbers
-/

/-- The number that bytes are with the lowest one first. -/
def littleEndian : Bytes → Nat
  | [] => 0
  | byte :: bytes => byte.toNat + 0x100 * littleEndian bytes

/-- A number of 32 bits in two's complement: the upper half of them are below zero. -/
def signed (n : Nat) : Int :=
  if n < 0x80000000 then n else n - 0x100000000

theorem littleEndian_lt (bytes : Bytes) : littleEndian bytes < 0x100 ^ bytes.length := by
  induction bytes with
  | nil => decide
  | cons byte bytes ih =>
      have small := byte.toNat_lt
      rw [littleEndian, List.length_cons, Nat.pow_succ]
      omega

theorem toInt_toInt32 (n : UInt32) : n.toInt32.toInt = signed n.toNat := by
  have small := n.toNat_lt
  have cond := BitVec.toInt_eq_toNat_cond n.toBitVec
  rw [UInt32.toNat_toBitVec] at cond
  rw [UInt32.toInt32, Int32.toInt, Int32.toBitVec, cond, signed]
  split <;> split <;> omega

theorem littleEndian_word (value : Int32) :
    littleEndian (word value) = value.toUInt32.toNat := by
  have small := value.toUInt32.toNat_lt
  simp [word, littleEndian]
  omega

/-!
## Places
-/

/-- The bytes of the word that begins at a place, as far as there are any. -/
def bytesAt (bytes : Bytes) (place : Nat) : Bytes := (bytes.drop place).take 4

/-- The word that begins at a place is whole and has a value. -/
structure WordAt (bytes : Bytes) (place : Nat) (value : Int32) : Prop where
  whole : (bytesAt bytes place).length = 4
  toInt_eq : value.toInt = signed (littleEndian (bytesAt bytes place))

theorem length_bytesAt_eq_four_iff :
    (bytesAt bytes place).length = 4 ↔ place + 4 ≤ bytes.length := by
  rw [bytesAt, List.length_take, List.length_drop]
  omega

/-- Whole words have one value each. -/
theorem wordAt_iff (whole : (bytesAt bytes place).length = 4) :
    WordAt bytes place value ↔
      value = (UInt32.ofNat (littleEndian (bytesAt bytes place))).toInt32 := by
  have small := littleEndian_lt (bytesAt bytes place)
  rw [whole] at small
  rw [← Int32.toInt_inj, toInt_toInt32, UInt32.toNat_ofNat_of_lt' small]
  exact ⟨fun word => word.toInt_eq, fun same => ⟨whole, same⟩⟩

theorem exists_wordAt_iff : (∃ value, WordAt bytes place value) ↔ place + 4 ≤ bytes.length := by
  rw [← length_bytesAt_eq_four_iff]
  constructor
  · rintro ⟨value, word⟩
    exact word.whole
  · intro whole
    exact ⟨_, (wordAt_iff whole).mpr rfl⟩

theorem WordAt.congr (same : bytesAt bytes place = bytesAt other place) :
    WordAt bytes place value ↔ WordAt other place value :=
  ⟨fun ⟨whole, eq⟩ => ⟨same ▸ whole, same ▸ eq⟩, fun ⟨whole, eq⟩ => ⟨same ▸ whole, same ▸ eq⟩⟩

theorem wordAt_word (before : Bytes) (value : Int32) (after : Bytes) :
    WordAt (before ++ word value ++ after) before.length value := by
  have stored : bytesAt (before ++ word value ++ after) before.length = word value := by
    rw [bytesAt, List.append_assoc, List.drop_left]
    rfl
  constructor
  · rw [stored]
    rfl
  · rw [stored, littleEndian_word, ← toInt_toInt32, Int32.toInt32_toUInt32]

/-!
## Reading
-/

/-- The end of a word comes after its start unless it wraps around. -/
theorem readWord?_guard_iff : (offset ≤ offset + 4 && (offset + 4).toNat ≤ bytes.length) = true ↔
    offset.toNat + 4 < UInt64.size ∧ offset.toNat + 4 ≤ bytes.length := by
  have small : offset.toNat < 18446744073709551616 := offset.toNat_lt
  have stop : (offset + 4).toNat = (offset.toNat + 4) % 18446744073709551616 :=
    UInt64.toNat_add offset 4
  rw [Bool.and_eq_true, decide_eq_true_eq, decide_eq_true_eq, UInt64.le_iff_toNat_le, stop,
    UInt64.size]
  omega

theorem readWord?_of_whole (fits : offset.toNat + 4 < UInt64.size)
    (whole : (bytesAt bytes offset.toNat).length = 4) :
    readWord? bytes offset =
      some (UInt32.ofNat (littleEndian (bytesAt bytes offset.toNat))).toInt32 := by
  have guard := readWord?_guard_iff.mpr ⟨fits, length_bytesAt_eq_four_iff.mp whole⟩
  rw [readWord?, if_pos guard]
  rw [bytesAt] at whole ⊢
  match rest : bytes.drop offset.toNat with
  | a :: b :: c :: d :: _ =>
      simp only [List.take, littleEndian]
      congr 3
      omega
  | [] | [_] | [_, _] | [_, _, _] => simp [rest] at whole

theorem readWord?_eq_some_iff : readWord? bytes offset = some value ↔
    offset.toNat + 4 < UInt64.size ∧ WordAt bytes offset.toNat value := by
  by_cases guard : offset.toNat + 4 < UInt64.size ∧ offset.toNat + 4 ≤ bytes.length
  · obtain ⟨fits, inside⟩ := guard
    have whole := length_bytesAt_eq_four_iff.mpr inside
    rw [readWord?_of_whole fits whole, wordAt_iff whole, Option.some_inj]
    exact ⟨fun same => ⟨fits, same.symm⟩, fun same => same.2.symm⟩
  · have refused : readWord? bytes offset = none := by
      rw [readWord?, if_neg (mt readWord?_guard_iff.mp guard)]
    rw [refused]
    refine ⟨nofun, fun ⟨fits, word⟩ => ?_⟩
    exact absurd ⟨fits, length_bytesAt_eq_four_iff.mp word.whole⟩ guard

example : readWord? [1, 2, 3, 4] 0xFFFFFFFFFFFFFFFC = none := by decide

theorem header?_eq_some_iff {length kind : Int32} :
    header? bytes = some (length, kind) ↔
      readWord? bytes 0 = some length ∧ readWord? bytes 12 = some kind := by
  simp [header?, Option.bind_eq_some_iff]

theorem header?_eq_some_iff_wordAt {length kind : Int32} :
    header? bytes = some (length, kind) ↔ WordAt bytes 0 length ∧ WordAt bytes 12 kind := by
  rw [header?_eq_some_iff, readWord?_eq_some_iff, readWord?_eq_some_iff]
  exact and_congr (and_iff_right (by decide)) (and_iff_right (by decide))

/-- How words and headers are read. -/
structure ReadsWords : Prop where
  /-- A word is read where all of its bytes are, as long as its end is a number of 64 bits. -/
  isSome_iff : ∀ bytes offset, (readWord? bytes offset).isSome ↔
    offset.toNat + 4 < UInt64.size ∧ offset.toNat + 4 ≤ bytes.length
  toInt_eq : ∀ bytes offset value, readWord? bytes offset = some value →
    value.toInt = signed (littleEndian (bytesAt bytes offset.toNat))
  readWord?_word : ∀ before value after, before.length + 4 < UInt64.size →
    readWord? (before ++ word value ++ after) (.ofNat before.length) = some value
  header?_isSome_iff : ∀ bytes, (header? bytes).isSome ↔ headerLength ≤ bytes.length
  header?_eq_some_iff : ∀ bytes length kind, header? bytes = some (length, kind) ↔
    readWord? bytes 0 = some length ∧ readWord? bytes 12 = some kind
  header?_congr : ∀ bytes other, bytesAt bytes 0 = bytesAt other 0 →
    bytesAt bytes 12 = bytesAt other 12 → header? bytes = header? other

theorem words_readAsWritten : ReadsWords := by
  constructor
  case isSome_iff =>
    intro bytes offset
    simp only [Option.isSome_iff_exists, readWord?_eq_some_iff, exists_and_left, exists_wordAt_iff]
  case toInt_eq => exact fun _ _ _ read => (readWord?_eq_some_iff.mp read).2.toInt_eq
  case readWord?_word =>
    intro before value after fits
    have place : (UInt64.ofNat before.length).toNat = before.length :=
      UInt64.toNat_ofNat_of_lt' (by omega)
    rw [readWord?_eq_some_iff, place]
    exact ⟨fits, wordAt_word before value after⟩
  case header?_isSome_iff =>
    intro bytes
    simp only [Option.isSome_iff_exists, Prod.exists, header?_eq_some_iff_wordAt,
      exists_and_left, exists_and_right, exists_wordAt_iff, headerLength]
    omega
  case header?_eq_some_iff => exact fun _ _ _ => header?_eq_some_iff
  case header?_congr =>
    intro bytes other first last
    refine Option.ext fun (length, kind) => ?_
    rw [header?_eq_some_iff_wordAt, header?_eq_some_iff_wordAt, WordAt.congr first,
      WordAt.congr last]

end ThrowawayServer.Message
