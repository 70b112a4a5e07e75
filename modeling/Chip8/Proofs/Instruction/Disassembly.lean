import Chip8.Proofs.Instruction.Assembly
import Chip8.Proofs.Instruction.Encoding
import Chip8.Proofs.Log.Trace

namespace Chip8

/-!
# Disassembly loses nothing

The text of an operation names it, and a word names its operation but for the
bits that the table of operations leaves open.  Two words therefore have one
text exactly when they agree on all other bits, and the line of a trace names
the place, the word and the operation.
-/

namespace Word

variable {first second : UInt16}

/--
Two words have the same bits but for those of some hexadecimal digits.  The
lowest digit, of bits 0 to 3, is digit 0.
-/
def AgreeBeyond
    (digits : List Nat)
    (first second : UInt16) : Prop :=
  ∀ bit < 16, bit / 4 ∉ digits → first.toNat.testBit bit = second.toNat.testBit bit

instance
    (digits : List Nat)
    (first second : UInt16) :
    Decidable (AgreeBeyond digits first second) :=
  inferInstanceAs (Decidable (∀ bit < 16, bit / 4 ∉ digits →
    first.toNat.testBit bit = second.toNat.testBit bit))

/-- A nibble has the four bits of the word that stand at its place. -/
theorem testBit_nibble
    (word : UInt16)
    (shift bit : Nat) :
    (nibble word shift).val.testBit bit =
      (decide (bit < 4) && word.toNat.testBit (shift + bit)) := by
  rw [← Nat.testBit_shiftRight]
  exact Nat.testBit_mod_two_pow _ 4 bit

/-- Two words have the same four bits from a place on when these make one number. -/
theorem nibble_eq_iff
    {shift : Nat} :
    nibble first shift = nibble second shift ↔
      ∀ bit < 4, first.toNat.testBit (shift + bit) = second.toNat.testBit (shift + bit) := by
  constructor
  · intro same bit low
    have sameBit := testBit_nibble first shift bit
    rw [same, testBit_nibble second shift bit, decide_eq_true low] at sameBit
    simpa using sameBit.symm
  · intro same
    apply Fin.ext
    apply Nat.eq_of_testBit_eq
    intro bit
    rw [testBit_nibble, testBit_nibble]
    by_cases low : bit < 4
    · rw [same bit low]
    · rw [decide_eq_false low, Bool.false_and, Bool.false_and]

/-- The byte of a word is its third and fourth nibble. -/
theorem byte_eq_iff :
    byte first = byte second ↔ y first = y second ∧ low first = low second := by
  rw [← UInt8.toNat_inj, Fin.ext_iff, Fin.ext_iff]
  simp only [byte, y, low, nibble, UInt16.toNat_toUInt8, Nat.shiftRight_eq_div_pow]
  omega

/-- The number of rows of a word is its last nibble. -/
theorem rows_eq_iff :
    rows first = rows second ↔ low first = low second := by
  rw [← UInt8.toNat_inj, Fin.ext_iff, rows_toNat, rows_toNat]

/-- The address of a word is all but its first nibble. -/
theorem address_eq_iff :
    address first = address second ↔
      x first = x second ∧ y first = y second ∧ low first = low second := by
  have low_bits (word : UInt16) : (address word).toNat = word.toNat % 2 ^ 12 := by
    rw [address, UInt16.toNat_and]
    exact Nat.and_two_pow_sub_one_eq_mod _ 12
  rw [← UInt16.toNat_inj, Fin.ext_iff, Fin.ext_iff, Fin.ext_iff, low_bits, low_bits]
  simp only [x, y, low, nibble, Nat.shiftRight_eq_div_pow]
  omega

/-- Words agree beyond some digits when they have the same parts at the others. -/
theorem agreeBeyond_iff
    {digits : List Nat} :
    AgreeBeyond digits first second ↔
      (3 ∉ digits → group first = group second) ∧ (2 ∉ digits → x first = x second) ∧
        (1 ∉ digits → y first = y second) ∧ (0 ∉ digits → low first = low second) := by
  constructor
  · intro agree
    have sameDigit
        {digit : Nat}
        (small : digit < 4)
        (read : digit ∉ digits) :
        nibble first (4 * digit) = nibble second (4 * digit) := by
      apply nibble_eq_iff.mpr
      intro bit low
      refine agree _ (by omega) ?_
      have inDigit : (4 * digit + bit) / 4 = digit := by omega
      rwa [inDigit]
    exact ⟨sameDigit (by decide), sameDigit (by decide), sameDigit (by decide),
      sameDigit (by decide)⟩
  · rintro ⟨sameGroup, sameX, sameY, sameLow⟩ bit inside read
    have sameDigit : nibble first (4 * (bit / 4)) = nibble second (4 * (bit / 4)) := by
      match digit : bit / 4 with
      | 0 => exact sameLow (digit ▸ read)
      | 1 => exact sameY (digit ▸ read)
      | 2 => exact sameX (digit ▸ read)
      | 3 => exact sameGroup (digit ▸ read)
      | _ + 4 => omega
    have sameBit := nibble_eq_iff.mp sameDigit (bit % 4) (Nat.mod_lt bit (by decide))
    rwa [Nat.div_add_mod] at sameBit

end Word

namespace Instruction

/-- The hexadecimal digits that a word for an instruction can have in any way. -/
def ignoredDigits : Instruction → List Nat
  | .clearScreen | .returnFromCall => [2]
  | .skipIfEqual _ _ | .skipIfUnequal _ _ => [0]
  | .shiftRight _ | .shiftLeft _ => [1]
  | _ => []

variable {first second : UInt16} {instruction : Instruction}

/-- The words for an instruction are those that agree on the bits that are read. -/
theorem encodes_iff_agreeBeyond
    (encoded : instruction.Encodes first) :
    instruction.Encodes second ↔ Word.AgreeBeyond instruction.ignoredDigits first second := by
  rw [Word.agreeBeyond_iff]
  cases instruction
  all_goals
    simp only [ignoredDigits, Encodes] at encoded ⊢
  -- The parts that a word is read by, one group of operations after the other.
  case clearScreen | returnFromCall =>
    simp [← encoded, Word.byte_eq_iff, eq_comm]
  case jump | call | loadIndex | jumpOffset =>
    simp [encoded, Word.address_eq_iff, eq_comm]
  case skipIfEqual | skipIfUnequal =>
    simp [encoded, eq_comm]
  case skipIfEqualByte | skipIfUnequalByte | loadByte | addByte | random =>
    simp [encoded, Word.byte_eq_iff, eq_comm]
  case draw =>
    simp [encoded, Word.rows_eq_iff, eq_comm]
  case shiftRight | shiftLeft =>
    simp [encoded, eq_comm, and_comm]
  case copy | or | and | xor | add | subtract | subtractFrom =>
    simp [encoded, eq_comm, and_comm, and_left_comm]
  all_goals
    obtain ⟨group, byte, rfl⟩ := encoded
    rw [← group, ← byte, Word.byte_eq_iff]
    simp [eq_comm, and_comm, and_left_comm]

/-- Words that are decoded stand for one instruction when they agree on the bits that are read. -/
theorem decoded_eq_iff_agreeBeyond
    {other : Instruction}
    (firstDecodes : decode? first = some instruction)
    (secondDecodes : decode? second = some other) :
    instruction = other ↔ Word.AgreeBeyond instruction.ignoredDigits first second := by
  rw [← encodes_iff_agreeBeyond (encodes_of_decode? firstDecodes), ← decode?_eq_some_iff,
    secondDecodes, Option.some_inj, eq_comm]

/-- The line of a trace names the place, the word and the instruction. -/
theorem message_executed_inj
    {place otherPlace : UInt16}
    {other : Instruction} :
    (Event.executed place first instruction).message =
        (Event.executed otherPlace second other).message ↔
      place = otherPlace ∧ first = second ∧ instruction = other := by
  constructor
  · intro (lines : Trace.executionLine place first instruction =
      Trace.executionLine otherPlace second other)
    have pairs := congrArg Trace.pairOfLine? lines
    rw [Trace.pairOfLine?_executionLine, Trace.pairOfLine?_executionLine] at pairs
    obtain ⟨rfl, rfl⟩ := Prod.mk.inj (Option.some.inj pairs)
    have texts : instruction.text = other.text := by
      simpa [Trace.executionLine] using lines
    exact ⟨rfl, rfl, text_inj.mp texts⟩
  · rintro ⟨rfl, rfl, rfl⟩
    rfl

/--
The text of an operation names it, whatever numbers its registers have.  Two
words that are decoded have one text exactly when they agree on all bits but
those that their operation leaves open, and the line that traces an
instruction names its place, its word and the instruction.
-/
theorem disassembly_is_faithful
    {other : Instruction}
    (firstDecodes : decode? first = some instruction)
    (secondDecodes : decode? second = some other) :
    (∀ operation another : InstructionOver Nat,
        operation.text id = another.text id ↔ operation = another) ∧
      (instruction.text = other.text ↔
        Word.AgreeBeyond instruction.ignoredDigits first second) ∧
      ∀ place otherPlace,
        (Event.executed place first instruction).message =
            (Event.executed otherPlace second other).message ↔
          place = otherPlace ∧ first = second ∧ instruction = other := by
  refine ⟨fun operation another => ?_, ?_, fun place otherPlace => message_executed_inj⟩
  · have inverse : ∀ register : Nat, id (id register) = register := fun _ => rfl
    exact InstructionOver.text_inj inverse
  · rw [text_inj, decoded_eq_iff_agreeBeyond firstDecodes secondDecodes]

/--
`8566` and `85A6` are one shift of `V5`, for the third digit of a shift is
ignored; `8567` differs in the last digit and is a subtraction.
-/
theorem shift_disassembled :
    (decode? 0x8566 = some (.shiftRight 5) ∧ decode? 0x85A6 = some (.shiftRight 5) ∧
        decode? 0x8567 = some (.subtractFrom 5 6)) ∧
      Word.AgreeBeyond [1] 0x8566 0x85A6 ∧
      text (.shiftRight 5) ≠ text (.subtractFrom 5 6) ∧
      (Event.executed 0x200 0x8566 (.shiftRight 5)).message ≠
        (Event.executed 0x200 0x85A6 (.shiftRight 5)).message := by
  have decoded : decode? 0x8566 = some (.shiftRight 5) := by decide
  have shifted : decode? 0x85A6 = some (.shiftRight 5) := by decide
  have subtracted : decode? 0x8567 = some (.subtractFrom 5 6) := by decide
  obtain ⟨-, sameText, sameLine⟩ := disassembly_is_faithful decoded shifted
  obtain ⟨-, otherText, -⟩ := disassembly_is_faithful decoded subtracted
  refine ⟨⟨decoded, shifted, subtracted⟩, sameText.mp rfl, fun texts => ?_, fun lines => ?_⟩
  · exact absurd (otherText.mp texts) (by decide)
  · exact absurd ((sameLine _ _).mp lines).2.1 (by decide)

end Instruction

end Chip8
