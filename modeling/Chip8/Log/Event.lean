import Chip8.Instruction.Mnemonic
import Chip8.Log.Level
import Chip8.Memory

namespace Chip8

/-!
# Events

An event is something the machine announces while it works.  Operations return
their events in order as data, so what happens to them afterwards cannot reach
back into the machine.
-/

/-- Something that the machine announces. -/
inductive Event where
  | fetchFault (address : UInt16) (cause : Fault)
  | undefined (address word : UInt16)
  | executed (address word : UInt16) (instruction : Instruction)
  | faulted (address word : UInt16) (cause : Fault)
  | copyIgnored (x y : Register)
  | waiting (address : UInt16)
  | clipped (offset : Nat)
  | collision (x y : Nat)
  | loaded (size : Nat)
  | reloadFailed (cause : LoadError)
  | stopRequested (frames : Nat)
  | buzzer (timer : UInt8)
  deriving Repr, DecidableEq

namespace Event

/-- The category under which an event is announced. -/
def category : Event → Category
  | .fetchFault .. => .cpu
  | .undefined .. => .stubs
  | .executed .. => .cpu
  | .faulted .. => .cpu
  | .copyIgnored .. => .stubs
  | .waiting .. => .input
  | .clipped .. => .display
  | .collision .. => .display
  | .loaded .. => .memory
  | .reloadFailed .. => .memory
  | .stopRequested .. => .input
  | .buzzer .. => .timers

/-- The level at which an event is announced. -/
def level : Event → Level
  | .fetchFault .. => .warn
  | .undefined .. => .debug
  | .executed .. => .trace
  | .faulted .. => .warn
  | .copyIgnored .. => .debug
  | .waiting .. => .trace
  | .clipped .. => .trace
  | .collision .. => .trace
  | .loaded .. => .info
  | .reloadFailed .. => .error
  | .stopRequested .. => .info
  | .buzzer .. => .trace

/-- The four digits of a word or of an instruction's place. -/
def wordText (word : UInt16) : String :=
  Hex.numeral 4 word.toNat

/-- The line that announces an event. -/
def message : Event → String
  | .fetchFault address cause =>
      "CPU: fetch fault at PC=" ++ wordText address ++ ": " ++ cause.message
  | .undefined address word =>
      "CPU: undefined opcode " ++ wordText word ++ " at PC=" ++ wordText address ++ ", skipped"
  | .executed address word instruction =>
      "CPU: " ++ wordText address ++ "  " ++ wordText word ++ "  " ++ instruction.text
  | .faulted address word cause =>
      "CPU: " ++ cause.message ++ " at PC=" ++ wordText address ++ " (" ++ wordText word ++ ")"
  | .copyIgnored x y =>
      "CPU: 8" ++ Hex.numeral 1 x.val ++ Hex.numeral 1 y.val ++ "0 ignored"
  | .waiting address =>
      "CPU: waiting for key at PC=" ++ wordText address
  | .clipped offset =>
      s!"Display: clipped sprite pixel at offset {offset}"
  | .collision x y =>
      s!"Display: collision drawing at ({x}, {y})"
  | .loaded size =>
      s!"Memory: loaded {size} byte program at {Hex.numeral 3 programStart}"
  | .reloadFailed cause =>
      "Memory: could not reload program on reset: " ++ cause.message
  | .stopRequested frames =>
      s!"Input: host requested stop after {frames} frames"
  | .buzzer timer =>
      s!"Timers: buzzer on, sound timer {timer.toNat}"

end Event

end Chip8
