import Chip8.Text

namespace Chip8

/-!
# Faults

A fault is a mistake of the running program: the step that meets it is given up
and the machine stays as it was.  A crash is worse: a block access that the
range check lets pass but that lies outside the store.  Nothing runs after it.
-/

/-- The number of return addresses that the call stack holds. -/
def stackDepth : Nat := 16

/-- What a program can do wrong. -/
inductive Fault where
  | stackOverflow
  | stackUnderflow
  | memoryOutOfRange (address : Nat)
  | keyOutOfRange (key : UInt8)
  deriving Repr, DecidableEq

namespace Fault

/-- The text that describes a fault. -/
def message : Fault → String
  | .stackOverflow =>
      s!"Stack overflow: more than {stackDepth} nested calls"
  | .stackUnderflow =>
      "Stack underflow: return with empty stack"
  | .memoryOutOfRange address =>
      s!"Memory access out of range at 0x{Hex.numeral 4 address}"
  | .keyOutOfRange key =>
      s!"Key index out of range: 0x{Hex.numeral 2 key.toNat}"

end Fault

/-- Why an operation stopped before its end. -/
inductive Stop where
  | fault (cause : Fault)
  | crash
  deriving Repr, DecidableEq

end Chip8
