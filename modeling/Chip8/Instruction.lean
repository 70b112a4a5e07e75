namespace Chip8

/-!
# Instructions

The thirty-four operations of the machine with their operands.  They are given
over any way of naming registers, for assembly text asks only for numbers.  The
machine names a register by its index, so an operand cannot name one that does
not exist.
-/

/-- The index of one of the sixteen registers. -/
abbrev Register := Fin 16

/-- There are registers, so numerals name them. -/
instance sixteenRegisters : @NeZero Nat Zero.ofOfNat0 16 :=
  Nat.instNeZeroSucc

/-- The register that receives carries, borrows, shifted bits and collisions. -/
def flagRegister : Register := 15

/--
One operation, with registers named by `R`.  `x` and `y` name registers, `byte`
is an immediate value, `rows` a sprite height and `address` a place in memory.
-/
inductive InstructionOver (R : Type) where
  | clearScreen
  | returnFromCall
  | jump (address : UInt16)
  | call (address : UInt16)
  | skipIfEqualByte (x : R) (byte : UInt8)
  | skipIfUnequalByte (x : R) (byte : UInt8)
  | skipIfEqual (x y : R)
  | loadByte (x : R) (byte : UInt8)
  | addByte (x : R) (byte : UInt8)
  | copy (x y : R)
  | or (x y : R)
  | and (x y : R)
  | xor (x y : R)
  | add (x y : R)
  | subtract (x y : R)
  | shiftRight (x : R)
  | subtractFrom (x y : R)
  | shiftLeft (x : R)
  | skipIfUnequal (x y : R)
  | loadIndex (address : UInt16)
  | jumpOffset (address : UInt16)
  | random (x : R) (byte : UInt8)
  | draw (x y : R) (rows : UInt8)
  | skipIfKeyDown (x : R)
  | skipIfKeyUp (x : R)
  | readDelay (x : R)
  | waitForKey (x : R)
  | setDelay (x : R)
  | setSound (x : R)
  | addToIndex (x : R)
  | glyphAddress (x : R)
  | storeDigits (x : R)
  | storeRegisters (x : R)
  | loadRegisters (x : R)
  deriving Repr, DecidableEq

/-- One operation of the machine. -/
abbrev Instruction := InstructionOver Register

end Chip8
