namespace Chip8

/-!
# Log levels and categories

A message carries a category, the part of the machine it speaks of, and a
level.  Levels are ordered from `off` to `trace`; a threshold admits every
level that is not above it.
-/

/-- How detailed a message is, or how detailed messages may be. -/
inductive Level where
  | off
  | error
  | warn
  | info
  | debug
  | trace
  deriving Repr, DecidableEq

namespace Level

/-- The position of a level in the order from `off` to `trace`. -/
def rank : Level → Nat
  | .off => 0
  | .error => 1
  | .warn => 2
  | .info => 3
  | .debug => 4
  | .trace => 5

instance : LE Level :=
  ⟨fun lower upper => lower.rank ≤ upper.rank⟩

instance
    (lower upper : Level) :
    Decidable (lower ≤ upper) :=
  inferInstanceAs (Decidable (lower.rank ≤ upper.rank))

/-- All levels in their order. -/
def all : List Level :=
  [.off, .error, .warn, .info, .debug, .trace]

/-- The level that a word names, in letters of either case or as a digit. -/
def ofText? (text : String) : Option Level :=
  match String.ofList (text.toList.map Char.toLower) with
  | "off" | "0" => some .off
  | "error" | "err" | "1" => some .error
  | "warn" | "warning" | "2" => some .warn
  | "info" | "3" => some .info
  | "debug" | "4" => some .debug
  | "trace" | "5" => some .trace
  | _ => none

end Level

/-- A text that names no level. -/
structure LevelError where
  text : String
  deriving Repr, DecidableEq

namespace LevelError

/-- The text that describes the mistake. -/
def message (error : LevelError) : String :=
  "unknown log level '" ++ error.text ++ "'"

end LevelError

/-- The level that a text names, or the mistake in it. -/
def Level.parse (text : String) : Except LevelError Level :=
  match Level.ofText? text with
  | some level => .ok level
  | none => .error ⟨text⟩

/-- The part of the machine that a message speaks of. -/
inductive Category where
  | cpu
  | memory
  | display
  | input
  | timers
  | stubs
  deriving Repr, DecidableEq

namespace Category

/-- All categories in their order. -/
def all : List Category :=
  [.cpu, .memory, .display, .input, .timers, .stubs]

/-- The place of a category in their order. -/
def index : Category → Fin 6
  | .cpu => 0
  | .memory => 1
  | .display => 2
  | .input => 3
  | .timers => 4
  | .stubs => 5

/-- The name of a category in messages. -/
def name : Category → String
  | .cpu => "CPU"
  | .memory => "Memory"
  | .display => "Display"
  | .input => "Input"
  | .timers => "Timers"
  | .stubs => "Stubs"

end Category

end Chip8
