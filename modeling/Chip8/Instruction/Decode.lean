import Chip8.Instruction

namespace Chip8

/-!
# Decoding

An instruction is one word.  Its top four bits name a group; the groups `0`,
`8`, `E` and `F` have several operations, told apart by the low bits.  Bits
that the table does not mention are ignored, so several words decode to one
instruction, and a word that names no operation decodes to nothing.
-/

namespace Word

/-- The number made by the four bits of a word from bit `shift` on. -/
def nibble
    (word : UInt16)
    (shift : Nat) :
    Fin 16 :=
  ⟨word.toNat >>> shift % 16, Nat.mod_lt _ (by decide)⟩

/-- The group of a word, its bits 12 to 15. -/
def group (word : UInt16) : Fin 16 :=
  nibble word 12

/-- The first register operand, bits 8 to 11. -/
def x (word : UInt16) : Register :=
  nibble word 8

/-- The second register operand, bits 4 to 7. -/
def y (word : UInt16) : Register :=
  nibble word 4

/-- The low four bits. -/
def low (word : UInt16) : Fin 16 :=
  nibble word 0

/-- The sprite height, the low four bits as a byte. -/
def rows (word : UInt16) : UInt8 :=
  UInt8.ofNat (low word).val

/-- The sprite height is the low four bits. -/
theorem rows_toNat
    (word : UInt16) :
    (rows word).toNat = (low word).val := by
  have bound := (low word).isLt
  simp only [rows, UInt8.toNat_ofNat']
  omega

/-- The immediate byte, bits 0 to 7. -/
def byte (word : UInt16) : UInt8 :=
  word.toUInt8

/-- The address operand, bits 0 to 11. -/
def address (word : UInt16) : UInt16 :=
  word &&& 0x0FFF

end Word

namespace Instruction

/-- The instructions of group `0`, chosen by the low byte. -/
def decodeScreenOrReturn? (word : UInt16) : Option Instruction :=
  match (Word.byte word).toNat with
  | 0xE0 => some .clearScreen
  | 0xEE => some .returnFromCall
  | _ => none

/-- The instructions of group `8`, chosen by the low four bits. -/
def decodeArithmetic? (word : UInt16) : Option Instruction :=
  match (Word.low word).val with
  | 0x0 => some (.copy (Word.x word) (Word.y word))
  | 0x1 => some (.or (Word.x word) (Word.y word))
  | 0x2 => some (.and (Word.x word) (Word.y word))
  | 0x3 => some (.xor (Word.x word) (Word.y word))
  | 0x4 => some (.add (Word.x word) (Word.y word))
  | 0x5 => some (.subtract (Word.x word) (Word.y word))
  | 0x6 => some (.shiftRight (Word.x word))
  | 0x7 => some (.subtractFrom (Word.x word) (Word.y word))
  | 0xE => some (.shiftLeft (Word.x word))
  | _ => none

/-- The instructions of group `E`, chosen by the low byte. -/
def decodeKey? (word : UInt16) : Option Instruction :=
  match (Word.byte word).toNat with
  | 0x9E => some (.skipIfKeyDown (Word.x word))
  | 0xA1 => some (.skipIfKeyUp (Word.x word))
  | _ => none

/-- The instructions of group `F`, chosen by the low byte. -/
def decodeTransfer? (word : UInt16) : Option Instruction :=
  match (Word.byte word).toNat with
  | 0x07 => some (.readDelay (Word.x word))
  | 0x0A => some (.waitForKey (Word.x word))
  | 0x15 => some (.setDelay (Word.x word))
  | 0x18 => some (.setSound (Word.x word))
  | 0x1E => some (.addToIndex (Word.x word))
  | 0x29 => some (.glyphAddress (Word.x word))
  | 0x33 => some (.storeDigits (Word.x word))
  | 0x55 => some (.storeRegisters (Word.x word))
  | 0x65 => some (.loadRegisters (Word.x word))
  | _ => none

/-- The instruction that a word stands for, if it stands for one. -/
def decode? (word : UInt16) : Option Instruction :=
  match (Word.group word).val with
  | 0x0 => decodeScreenOrReturn? word
  | 0x1 => some (.jump (Word.address word))
  | 0x2 => some (.call (Word.address word))
  | 0x3 => some (.skipIfEqualByte (Word.x word) (Word.byte word))
  | 0x4 => some (.skipIfUnequalByte (Word.x word) (Word.byte word))
  | 0x5 => some (.skipIfEqual (Word.x word) (Word.y word))
  | 0x6 => some (.loadByte (Word.x word) (Word.byte word))
  | 0x7 => some (.addByte (Word.x word) (Word.byte word))
  | 0x8 => decodeArithmetic? word
  | 0x9 => some (.skipIfUnequal (Word.x word) (Word.y word))
  | 0xA => some (.loadIndex (Word.address word))
  | 0xB => some (.jumpOffset (Word.address word))
  | 0xC => some (.random (Word.x word) (Word.byte word))
  | 0xD => some (.draw (Word.x word) (Word.y word) (Word.rows word))
  | 0xE => decodeKey? word
  | _ => decodeTransfer? word

end Instruction

end Chip8
