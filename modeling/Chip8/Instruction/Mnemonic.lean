import Chip8.Instruction
import Chip8.Text

namespace Chip8

/-!
# Mnemonics

The assembly text of an instruction: a mnemonic and its operands.  Registers
are written `V0` to `VF`, bytes with two digits, addresses with three and a
sprite height with one.
-/

namespace InstructionOver

variable {R : Type} (number : R → Nat)

/-- The name of a register in assembly text. -/
def registerText (register : R) : String :=
  "V" ++ Hex.numeral 1 (number register)

/-- An immediate byte in assembly text. -/
def byteText (byte : UInt8) : String :=
  Hex.numeral 2 byte.toNat

/-- A sprite height in assembly text. -/
def rowsText (rows : UInt8) : String :=
  Hex.numeral 1 rows.toNat

/-- An address in assembly text. -/
def addressText (address : UInt16) : String :=
  Hex.numeral 3 address.toNat

/-- The mnemonic of an operation; operations with the same one differ in their operands. -/
def mnemonic : InstructionOver R → String
  | .clearScreen => "CLS"
  | .returnFromCall => "RET"
  | .jump _ | .jumpOffset _ => "JP"
  | .call _ => "CALL"
  | .skipIfEqualByte _ _ | .skipIfEqual _ _ => "SE"
  | .skipIfUnequalByte _ _ | .skipIfUnequal _ _ => "SNE"
  | .loadByte _ _ | .copy _ _ | .loadIndex _ | .readDelay _ | .waitForKey _ | .setDelay _
  | .setSound _ | .glyphAddress _ | .storeDigits _ | .storeRegisters _ | .loadRegisters _ => "LD"
  | .addByte _ _ | .add _ _ | .addToIndex _ => "ADD"
  | .or _ _ => "OR"
  | .and _ _ => "AND"
  | .xor _ _ => "XOR"
  | .subtract _ _ => "SUB"
  | .shiftRight _ => "SHR"
  | .subtractFrom _ _ => "SUBN"
  | .shiftLeft _ => "SHL"
  | .random _ _ => "RND"
  | .draw _ _ _ => "DRW"
  | .skipIfKeyDown _ => "SKP"
  | .skipIfKeyUp _ => "SKNP"

/-- The operands of an operation in the order in which they are written. -/
def operands : InstructionOver R → List String
  | .clearScreen | .returnFromCall => []
  | .jump address | .call address => [addressText address]
  | .skipIfEqualByte x byte | .skipIfUnequalByte x byte | .loadByte x byte | .addByte x byte
  | .random x byte => [registerText number x, byteText byte]
  | .skipIfEqual x y | .copy x y | .or x y | .and x y | .xor x y | .add x y | .subtract x y
  | .subtractFrom x y | .skipIfUnequal x y => [registerText number x, registerText number y]
  | .shiftRight x | .shiftLeft x | .skipIfKeyDown x | .skipIfKeyUp x => [registerText number x]
  | .loadIndex address => ["I", addressText address]
  | .jumpOffset address => ["V0", addressText address]
  | .draw x y rows => [registerText number x, registerText number y, rowsText rows]
  | .readDelay x => [registerText number x, "DT"]
  | .waitForKey x => [registerText number x, "K"]
  | .setDelay x => ["DT", registerText number x]
  | .setSound x => ["ST", registerText number x]
  | .addToIndex x => ["I", registerText number x]
  | .glyphAddress x => ["F", registerText number x]
  | .storeDigits x => ["B", registerText number x]
  | .storeRegisters x => ["[I]", registerText number x]
  | .loadRegisters x => [registerText number x, "[I]"]

/-- A mnemonic and, behind a blank, its operands with commas between them. -/
def line (mnemonic : String) : List String → String
  | [] => mnemonic
  | first :: rest => mnemonic ++ " " ++ first ++ String.join (rest.map (", " ++ ·))

/-- The assembly text of an operation whose registers have numbers. -/
def text (operation : InstructionOver R) : String :=
  line operation.mnemonic (operation.operands number)

end InstructionOver

/-- The assembly text of an instruction. -/
def Instruction.text (instruction : Instruction) : String :=
  InstructionOver.text Fin.val instruction

end Chip8
