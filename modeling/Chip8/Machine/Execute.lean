import Chip8.Instruction
import Chip8.Machine

namespace Chip8.Machine

/-!
# Execution

What each instruction does to a machine whose `pc` already points past it.
Ranges are checked before anything is written.
-/

/-- One for true and zero for false. -/
def bit (condition : Bool) : UInt8 :=
  if condition then 1 else 0

/-- The hundreds, tens and ones of a byte. -/
def decimalDigits (value : UInt8) : List UInt8 :=
  [value / 100, value / 10 % 10, value % 10]

/-- The values of the registers from `V0` to the given one. -/
def registersUpTo
    (machine : Machine)
    (last : Register) :
    List UInt8 :=
  machine.registers.toList.take (last.val + 1)

/-- Replace the registers from `V0` on by the given values. -/
def setRegisters
    (machine : Machine)
    (values : List UInt8) :
    Machine :=
  { machine with
    registers :=
      Vector.ofFn fun register : Register =>
        values[register.val]?.getD (machine.register register) }

/-- Write a block at the index. -/
def storeAtIndex
    (machine : Machine)
    (data : List UInt8) :
    Reply Machine (Except Stop Unit) :=
  match machine.memory.writeSlice machine.index.toNat data with
  | .ok memory => Reply.done { machine with memory }
  | .error stop => Reply.failed machine stop

/-- Leave a subroutine for the address that was pushed last. -/
def popReturn (machine : Machine) : Reply Machine (Except Stop Unit) :=
  if machine.sp = 0 then
    Reply.failed machine (.fault .stackUnderflow)
  else
    match machine.stack[machine.sp.toNat - 1]? with
    | some address => Reply.done { machine with sp := machine.sp - 1, pc := address }
    | none => Reply.failed machine .crash

/-- Push the address of the next instruction and enter a subroutine. -/
def pushCall
    (machine : Machine)
    (address : UInt16) :
    Reply Machine (Except Stop Unit) :=
  if free : machine.sp.toNat < stackDepth then
    Reply.done
      { machine with
        stack := machine.stack.set machine.sp.toNat machine.pc free
        sp := machine.sp + 1
        pc := address }
  else
    Reply.failed machine (.fault .stackOverflow)

/-- Draw the sprite at the index and note a collision in the flag register. -/
def drawSprite
    (machine : Machine)
    (x y : Register)
    (rows : UInt8) :
    Reply Machine (Except Stop Unit) :=
  match machine.memory.slice machine.index.toNat rows.toNat with
  | .ok bytes =>
      let drawing := machine.screen.draw (machine.register x) (machine.register y) bytes
      (Reply.done
        (setRegister { machine with screen := drawing.screen }
          flagRegister (bit drawing.collision))).announcing drawing.events
  | .error stop =>
      Reply.failed machine stop

/-- Step over the next instruction when the key named by a register is in a position. -/
def skipIfKey
    (machine : Machine)
    (x : Register)
    (position : Bool) :
    Reply Machine (Except Stop Unit) :=
  match machine.keypad.isDown (machine.register x) with
  | .ok pressed => Reply.done (machine.skipIf (pressed == position))
  | .error stop => Reply.failed machine stop

/-- Take the lowest key that is down, or come back to this instruction. -/
def awaitKey
    (machine : Machine)
    (x : Register) :
    Reply Machine (Except Stop Unit) :=
  match machine.keypad.firstDown? with
  | some key =>
      Reply.done (machine.setRegister x (UInt8.ofNat key.val))
  | none =>
      (Reply.done { machine with pc := machine.pc - 2 }).announcing
        [.waiting (machine.pc - 2)]

/-- Execute one instruction. -/
def execute
    (machine : Machine) :
    Instruction → Reply Machine (Except Stop Unit)
  | .clearScreen =>
      Reply.done { machine with screen := Screen.blank }
  | .returnFromCall =>
      machine.popReturn
  | .jump address =>
      Reply.done { machine with pc := address }
  | .call address =>
      machine.pushCall address
  | .skipIfEqualByte x byte =>
      Reply.done (machine.skipIf (machine.register x == byte))
  | .skipIfUnequalByte x byte =>
      Reply.done (machine.skipIf (machine.register x != byte))
  | .skipIfEqual x y =>
      Reply.done (machine.skipIf (machine.register x == machine.register y))
  | .loadByte x byte =>
      Reply.done (machine.setRegister x byte)
  | .addByte x byte =>
      Reply.done (machine.setRegister x (machine.register x + byte))
  | .copy x y =>
      match machine.semantics with
      | .corrected => Reply.done (machine.setRegister x (machine.register y))
      | .referenceExact => (Reply.done machine).announcing [.copyIgnored x y]
  | .or x y =>
      Reply.done (machine.setRegister x (machine.register x ||| machine.register y))
  | .and x y =>
      Reply.done (machine.setRegister x (machine.register x &&& machine.register y))
  | .xor x y =>
      Reply.done (machine.setRegister x (machine.register x ^^^ machine.register y))
  | .add x y =>
      let (a, b) := (machine.register x, machine.register y)
      Reply.done (machine.setFlagged x (a + b) (bit (decide (255 < a.toNat + b.toNat))))
  | .subtract x y =>
      let (a, b) := (machine.register x, machine.register y)
      Reply.done (machine.setFlagged x (a - b) (bit (decide (b < a))))
  | .shiftRight x =>
      let a := machine.register x
      Reply.done (machine.setFlagged x (a >>> 1) (a &&& 1))
  | .subtractFrom x y =>
      let (a, b) := (machine.register x, machine.register y)
      Reply.done (machine.setFlagged x (b - a) (bit (decide (a < b))))
  | .shiftLeft x =>
      let a := machine.register x
      Reply.done (machine.setFlagged x (a <<< 1) (a >>> 7))
  | .skipIfUnequal x y =>
      Reply.done (machine.skipIf (machine.register x != machine.register y))
  | .loadIndex address =>
      Reply.done { machine with index := address }
  | .jumpOffset address =>
      let target := (machine.register 0).toUInt16 + address
      match machine.semantics with
      | .referenceExact => Reply.done { machine with index := target }
      | .corrected => Reply.done { machine with pc := target }
  | .random x byte =>
      let (drawn, random) := machine.random.next
      Reply.done (setRegister { machine with random } x (drawn &&& byte))
  | .draw x y rows =>
      machine.drawSprite x y rows
  | .skipIfKeyDown x =>
      machine.skipIfKey x true
  | .skipIfKeyUp x =>
      machine.skipIfKey x false
  | .readDelay x =>
      Reply.done (machine.setRegister x machine.delayTimer)
  | .waitForKey x =>
      machine.awaitKey x
  | .setDelay x =>
      Reply.done { machine with delayTimer := machine.register x }
  | .setSound x =>
      Reply.done { machine with soundTimer := machine.register x }
  | .addToIndex x =>
      Reply.done { machine with index := machine.index + (machine.register x).toUInt16 }
  | .glyphAddress x =>
      Reply.done
        { machine with
          index := UInt16.ofNat (glyphStart + (machine.register x).toNat * glyphSize) }
  | .storeDigits x =>
      machine.storeAtIndex (decimalDigits (machine.register x))
  | .storeRegisters x =>
      machine.storeAtIndex (machine.registersUpTo x)
  | .loadRegisters x =>
      match machine.semantics with
      | .referenceExact =>
          machine.storeAtIndex (machine.registersUpTo x)
      | .corrected =>
          match machine.memory.slice machine.index.toNat (x.val + 1) with
          | .ok values => Reply.done (machine.setRegisters values)
          | .error stop => Reply.failed machine stop

end Chip8.Machine
