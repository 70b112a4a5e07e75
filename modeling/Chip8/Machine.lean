import Chip8.Config
import Chip8.Keypad
import Chip8.Memory
import Chip8.Random
import Chip8.Reply
import Chip8.Screen

namespace Chip8

/-!
# The machine

The whole state that instructions read and write, and the operations of a host
on it: power-on, reset, loading a program, restarting the random stream and
letting the timers run.
-/

/-- The complete state of the machine. -/
structure Machine where
  memory : Memory
  registers : Vector UInt8 16
  stack : Vector UInt16 stackDepth
  /-- The number of return addresses on the stack. -/
  sp : UInt8
  /-- The address of the next instruction. -/
  pc : UInt16
  index : UInt16
  delayTimer : UInt8
  soundTimer : UInt8
  /-- The word fetched last. -/
  lastWord : UInt16
  screen : Screen
  keypad : Keypad
  semantics : Semantics
  random : RandomStream
  deriving DecidableEq

namespace Machine

/-- A machine at power-on: glyphs in memory, no program, everything else at rest. -/
def powerOn
    (semantics : Semantics)
    (random : RandomStream) :
    Machine where
  memory :=
    Memory.powerOn
  registers :=
    Vector.replicate 16 0
  stack :=
    Vector.replicate stackDepth 0
  sp :=
    0
  pc :=
    UInt16.ofNat programStart
  index :=
    0
  delayTimer :=
    0
  soundTimer :=
    0
  lastWord :=
    0
  screen :=
    Screen.blank
  keypad :=
    Keypad.released
  semantics :=
    semantics
  random :=
    random

/-- Bring everything to rest; the semantics and the random stream stay as they are. -/
def reset (machine : Machine) : Machine :=
  { machine with
    memory := Memory.blank.loadGlyphs
    registers := Vector.replicate 16 0
    stack := Vector.replicate stackDepth 0
    sp := 0
    pc := UInt16.ofNat programStart
    index := 0
    delayTimer := 0
    soundTimer := 0
    lastWord := 0
    screen := Screen.blank
    keypad := Keypad.released }

/-- Start the random stream of a seed. -/
def reseed
    (machine : Machine)
    (seed : UInt64) :
    Machine :=
  { machine with random := RandomStream.ofSeed seed }

/-- Copy a program image into memory. -/
def loadProgram
    (machine : Machine)
    (program : List UInt8) :
    Reply Machine (Except LoadError Unit) :=
  match machine.memory.loadProgram program with
  | .ok memory =>
      (Reply.done { machine with memory }).announcing [.loaded program.length]
  | .error error =>
      Reply.failed machine error

/-- Let both timers run for a number of ticks; a timer stops at zero. -/
def elapse
    (machine : Machine)
    (ticks : Nat) :
    Machine :=
  { machine with
    delayTimer := UInt8.ofNat (machine.delayTimer.toNat - ticks)
    soundTimer := UInt8.ofNat (machine.soundTimer.toNat - ticks) }

/-- Let both timers run for one tick. -/
def tick (machine : Machine) : Machine :=
  machine.elapse 1

/-- Whether the buzzer sounds. -/
def soundActive (machine : Machine) : Bool :=
  decide (0 < machine.soundTimer)

/-- The value of a register. -/
def register
    (machine : Machine)
    (register : Register) :
    UInt8 :=
  machine.registers[register.val]

/-- Replace the value of a register. -/
def setRegister
    (machine : Machine)
    (register : Register)
    (value : UInt8) :
    Machine :=
  { machine with registers := machine.registers.set register.val value }

/-- Replace the flag and then a register, so the value wins where both are one register. -/
def setFlagged
    (machine : Machine)
    (register : Register)
    (value flag : UInt8) :
    Machine :=
  (machine.setRegister flagRegister flag).setRegister register value

/-- Step over the next instruction when a condition holds. -/
def skipIf
    (machine : Machine)
    (condition : Bool) :
    Machine :=
  if condition then
    { machine with pc := machine.pc + 2 }
  else
    machine

/-- A reset leaves no component but the semantics and the random stream as it was. -/
theorem reset_eq_powerOn
    (machine : Machine) :
    machine.reset = powerOn machine.semantics machine.random := by
  simp only [reset, powerOn, Memory.powerOn]

/-- Skipping changes the program counter only. -/
theorem skipIf_eq
    (machine : Machine)
    (condition : Bool) :
    machine.skipIf condition =
      { machine with pc := if condition then machine.pc + 2 else machine.pc } := by
  cases condition <;> rfl

/-- Writing a register and reading one meet only where they are the same register. -/
theorem register_setRegister
    (machine : Machine)
    (written : Register)
    (value : UInt8)
    (read : Register) :
    (machine.setRegister written value).register read =
      if read = written then value else machine.register read := by
  by_cases same : read = written
  · subst read
    simp [register, setRegister]
  · have apart : written.val ≠ read.val := by
      intro equal
      exact same (Fin.ext equal.symm)
    simp [register, setRegister, same, apart]

end Machine

end Chip8
