namespace Chip8

/-!
# Configuration

How a machine is driven: which semantics it has, how many instructions and
timer ticks make a frame, how many frames a second a host may show, and the
seed of the random numbers.

Three operations have two readings.  Under `referenceExact` the copy `8xy0`
does nothing, `Bnnn` sets the index and `Fx65` stores registers; under
`corrected` they copy, jump and load.
-/

/-- Which reading of the three ambiguous operations is in force. -/
inductive Semantics where
  | referenceExact
  | corrected
  deriving Repr, DecidableEq

/-- The settings of an emulator. -/
structure Config where
  semantics : Semantics
  cyclesPerFrame : UInt32
  timerTicksPerFrame : UInt32
  frameRate : UInt32
  seed : Option UInt64
  deriving Repr, DecidableEq

namespace Config

/-- The settings that hold where nothing else is said. -/
def standard : Config where
  semantics :=
    .referenceExact
  cyclesPerFrame :=
    11
  timerTicksPerFrame :=
    1
  frameRate :=
    60
  seed :=
    none

/-- The seed in force: the configured one, or else the given entropy. -/
def seedOr
    (config : Config)
    (entropy : UInt64) :
    UInt64 :=
  config.seed.getD entropy

end Config

end Chip8
