import Chip8.Instruction.Decode

namespace Chip8

/-!
# Encodings

The table of operations, read as a relation between words and instructions:
which bits of a word must have which value for it to stand for an instruction.
Decoding computes exactly this relation.
-/

namespace Instruction

/-- The bits by which a word stands for an instruction. -/
def Encodes (word : UInt16) : Instruction → Prop
  | .clearScreen =>
      Word.group word = 0x0 ∧ Word.byte word = 0xE0
  | .returnFromCall =>
      Word.group word = 0x0 ∧ Word.byte word = 0xEE
  | .jump address =>
      Word.group word = 0x1 ∧ address = Word.address word
  | .call address =>
      Word.group word = 0x2 ∧ address = Word.address word
  | .skipIfEqualByte x byte =>
      Word.group word = 0x3 ∧ x = Word.x word ∧ byte = Word.byte word
  | .skipIfUnequalByte x byte =>
      Word.group word = 0x4 ∧ x = Word.x word ∧ byte = Word.byte word
  | .skipIfEqual x y =>
      Word.group word = 0x5 ∧ x = Word.x word ∧ y = Word.y word
  | .loadByte x byte =>
      Word.group word = 0x6 ∧ x = Word.x word ∧ byte = Word.byte word
  | .addByte x byte =>
      Word.group word = 0x7 ∧ x = Word.x word ∧ byte = Word.byte word
  | .copy x y =>
      Word.group word = 0x8 ∧ Word.low word = 0x0 ∧ x = Word.x word ∧ y = Word.y word
  | .or x y =>
      Word.group word = 0x8 ∧ Word.low word = 0x1 ∧ x = Word.x word ∧ y = Word.y word
  | .and x y =>
      Word.group word = 0x8 ∧ Word.low word = 0x2 ∧ x = Word.x word ∧ y = Word.y word
  | .xor x y =>
      Word.group word = 0x8 ∧ Word.low word = 0x3 ∧ x = Word.x word ∧ y = Word.y word
  | .add x y =>
      Word.group word = 0x8 ∧ Word.low word = 0x4 ∧ x = Word.x word ∧ y = Word.y word
  | .subtract x y =>
      Word.group word = 0x8 ∧ Word.low word = 0x5 ∧ x = Word.x word ∧ y = Word.y word
  | .shiftRight x =>
      Word.group word = 0x8 ∧ Word.low word = 0x6 ∧ x = Word.x word
  | .subtractFrom x y =>
      Word.group word = 0x8 ∧ Word.low word = 0x7 ∧ x = Word.x word ∧ y = Word.y word
  | .shiftLeft x =>
      Word.group word = 0x8 ∧ Word.low word = 0xE ∧ x = Word.x word
  | .skipIfUnequal x y =>
      Word.group word = 0x9 ∧ x = Word.x word ∧ y = Word.y word
  | .loadIndex address =>
      Word.group word = 0xA ∧ address = Word.address word
  | .jumpOffset address =>
      Word.group word = 0xB ∧ address = Word.address word
  | .random x byte =>
      Word.group word = 0xC ∧ x = Word.x word ∧ byte = Word.byte word
  | .draw x y rows =>
      Word.group word = 0xD ∧ x = Word.x word ∧ y = Word.y word ∧ rows = Word.rows word
  | .skipIfKeyDown x =>
      Word.group word = 0xE ∧ Word.byte word = 0x9E ∧ x = Word.x word
  | .skipIfKeyUp x =>
      Word.group word = 0xE ∧ Word.byte word = 0xA1 ∧ x = Word.x word
  | .readDelay x =>
      Word.group word = 0xF ∧ Word.byte word = 0x07 ∧ x = Word.x word
  | .waitForKey x =>
      Word.group word = 0xF ∧ Word.byte word = 0x0A ∧ x = Word.x word
  | .setDelay x =>
      Word.group word = 0xF ∧ Word.byte word = 0x15 ∧ x = Word.x word
  | .setSound x =>
      Word.group word = 0xF ∧ Word.byte word = 0x18 ∧ x = Word.x word
  | .addToIndex x =>
      Word.group word = 0xF ∧ Word.byte word = 0x1E ∧ x = Word.x word
  | .glyphAddress x =>
      Word.group word = 0xF ∧ Word.byte word = 0x29 ∧ x = Word.x word
  | .storeDigits x =>
      Word.group word = 0xF ∧ Word.byte word = 0x33 ∧ x = Word.x word
  | .storeRegisters x =>
      Word.group word = 0xF ∧ Word.byte word = 0x55 ∧ x = Word.x word
  | .loadRegisters x =>
      Word.group word = 0xF ∧ Word.byte word = 0x65 ∧ x = Word.x word

variable {word : UInt16} {instruction : Instruction}

/-- What group `0` decodes to is encoded by the word. -/
theorem encodes_of_decodeScreenOrReturn?
    (group : Word.group word = 0x0)
    (decoded : decodeScreenOrReturn? word = some instruction) :
    instruction.Encodes word := by
  unfold decodeScreenOrReturn? at decoded
  split at decoded <;> cases decoded
  all_goals
    rename_i byte
    exact ⟨group, UInt8.toNat_inj.mp byte⟩

/-- What group `8` decodes to is encoded by the word. -/
theorem encodes_of_decodeArithmetic?
    (group : Word.group word = 0x8)
    (decoded : decodeArithmetic? word = some instruction) :
    instruction.Encodes word := by
  unfold decodeArithmetic? at decoded
  split at decoded <;> cases decoded
  all_goals
    rename_i low
    refine ⟨group, Fin.ext low, ?_⟩
    simp only [and_self]

/-- What group `E` decodes to is encoded by the word. -/
theorem encodes_of_decodeKey?
    (group : Word.group word = 0xE)
    (decoded : decodeKey? word = some instruction) :
    instruction.Encodes word := by
  unfold decodeKey? at decoded
  split at decoded <;> cases decoded
  all_goals
    rename_i byte
    exact ⟨group, UInt8.toNat_inj.mp byte, rfl⟩

/-- What group `F` decodes to is encoded by the word. -/
theorem encodes_of_decodeTransfer?
    (group : Word.group word = 0xF)
    (decoded : decodeTransfer? word = some instruction) :
    instruction.Encodes word := by
  unfold decodeTransfer? at decoded
  split at decoded <;> cases decoded
  all_goals
    rename_i byte
    exact ⟨group, UInt8.toNat_inj.mp byte, rfl⟩

/-- What a word decodes to is encoded by the word. -/
theorem encodes_of_decode?
    (decoded : decode? word = some instruction) :
    instruction.Encodes word := by
  unfold decode? at decoded
  split at decoded
  case h_1 group => exact encodes_of_decodeScreenOrReturn? (Fin.ext group) decoded
  case h_9 group => exact encodes_of_decodeArithmetic? (Fin.ext group) decoded
  case h_15 group => exact encodes_of_decodeKey? (Fin.ext group) decoded
  case h_16 =>
    have group : Word.group word = 0xF := by
      have bound := (Word.group word).isLt
      apply Fin.ext
      show (Word.group word).val = 15
      simp only [imp_false] at *
      omega
    exact encodes_of_decodeTransfer? group decoded
  all_goals
    rename_i group
    cases decoded
    refine ⟨Fin.ext group, ?_⟩
    simp only [and_self]

/-- A word decodes to the instruction that it encodes. -/
theorem decode?_of_encodes
    (encoded : instruction.Encodes word) :
    decode? word = some instruction := by
  cases instruction <;>
    simp only [Encodes] at encoded <;>
    simp only [decode?, decodeScreenOrReturn?, decodeArithmetic?, decodeKey?,
      decodeTransfer?, encoded] <;>
    rfl

/-- Decoding computes the table of operations. -/
theorem decode?_eq_some_iff :
    decode? word = some instruction ↔ instruction.Encodes word :=
  ⟨encodes_of_decode?, decode?_of_encodes⟩

end Instruction

end Chip8
