import Chip8.Config
import Chip8.Machine.Step

namespace Chip8

/-!
# Emulators

An emulator is a machine with its settings and the program image mounted on it.
It runs whole frames: a number of instructions and then a number of timer
ticks.  An image that is rejected leaves everything as it was; an accepted one
restarts the machine.
-/

/-- Why an operation on an emulator fails. -/
inductive EmulationError where
  | load (cause : LoadError)
  | fault (address : UInt16) (cause : Fault)
  | noProgram
  | invalidMountPoint (name : String)
  deriving Repr, DecidableEq

namespace EmulationError

/-- The text that describes a failure. -/
def message : EmulationError → String
  | .load cause =>
      "Program error: " ++ cause.message
  | .fault address cause =>
      "Fault at PC=" ++ Hex.numeral 4 address.toNat ++ ": " ++ cause.message
  | .noProgram =>
      "No program loaded"
  | .invalidMountPoint name =>
      "Invalid mount point: " ++ name

end EmulationError

/-- Why a frame was not completed. -/
inductive Halt where
  | error (cause : EmulationError)
  | crash
  deriving Repr, DecidableEq

/-- A place where an emulator takes an image. -/
structure MountPoint where
  id : String
  name : String
  extensions : List String
  required : Bool
  deriving Repr, DecidableEq

/-- The identifier of the only mount point. -/
def programMount : String := "Program"

/-- A machine, its settings and its mounted program. -/
structure Emulator where
  machine : Machine
  config : Config
  /-- What the random numbers start from when the settings name no seed. -/
  entropy : UInt64
  program : Option (List UInt8)
  /--
  The number of frames completed since the last reset.  A counter of 64 bits
  would do: no emulator completes so many frames that it runs over.
  -/
  frames : Nat
  deriving DecidableEq

namespace Emulator

/-- An emulator at power-on with nothing mounted. -/
def ofConfig
    (config : Config)
    (entropy : UInt64) :
    Emulator where
  machine :=
    Machine.powerOn config.semantics (RandomStream.ofSeed (config.seedOr entropy))
  config :=
    config
  entropy :=
    entropy
  program :=
    none
  frames :=
    0

/-- The places where an emulator takes images. -/
def mountPoints : List MountPoint :=
  [ { id := programMount
      name := "Program ROM"
      extensions := ["ch8", "c8", "bin"]
      required := true } ]

/-- Copy the mounted program, if there is one, into a machine. -/
def reload
    (machine : Machine) :
    Option (List UInt8) → Reply Machine Unit
  | none =>
      { result := (), state := machine, events := [] }
  | some program =>
      let reply := machine.loadProgram program
      match reply.result with
      | .ok () =>
          { result := (), state := reply.state, events := reply.events }
      | .error error =>
          { result := ()
            state := reply.state
            events := reply.events ++ [.reloadFailed error] }

/-- Return to power-on with the mounted program in memory. -/
def reset (emulator : Emulator) : Reply Emulator Unit :=
  let reply :=
    reload
      (emulator.machine.reset.reseed (emulator.config.seedOr emulator.entropy))
      emulator.program
  { result := ()
    state := { emulator with machine := reply.state, frames := 0 }
    events := reply.events }

/-- Mount an image and restart; a rejected image changes nothing. -/
def loadProgram
    (emulator : Emulator)
    (program : List UInt8) :
    Reply Emulator (Except EmulationError Unit) :=
  let loaded := emulator.machine.loadProgram program
  match loaded.result with
  | .error error =>
      (Reply.failed { emulator with machine := loaded.state } (.load error)).announcing
        loaded.events
  | .ok () =>
      let restarted := reset { emulator with machine := loaded.state, program := some program }
      { result := .ok ()
        state := restarted.state
        events := loaded.events ++ restarted.events }

/-- Mount an image at a named place. -/
def mount
    (emulator : Emulator)
    (place : String)
    (program : List UInt8) :
    Reply Emulator (Except EmulationError Unit) :=
  if place = programMount then
    emulator.loadProgram program
  else
    Reply.failed emulator (.invalidMountPoint place)

/-- Take the image from a named place and zero the program region. -/
def unmount
    (emulator : Emulator)
    (place : String) :
    Reply Emulator (Except EmulationError Unit) :=
  if place = programMount then
    Reply.done
      { emulator with
        machine := { emulator.machine with memory := emulator.machine.memory.clearProgram }
        program := none }
  else
    Reply.failed emulator (.invalidMountPoint place)

/-- Whether an image is mounted at a named place. -/
def isMounted
    (emulator : Emulator)
    (place : String) :
    Bool :=
  place == programMount && emulator.program.isSome

/-- What a machine announces at the end of a frame. -/
def frameEvents (machine : Machine) : List Event :=
  if machine.soundActive then
    [.buzzer machine.soundTimer]
  else
    []

/-- Run the instructions and the timer ticks of one frame. -/
def emulateFrame (emulator : Emulator) : Reply Emulator (Except Halt Unit) :=
  if emulator.program.isNone then
    Reply.failed emulator (.error .noProgram)
  else
    let reply := emulator.machine.run emulator.config.cyclesPerFrame.toNat
    match reply.result with
    | .error (.fault cause) =>
        (Reply.failed { emulator with machine := reply.state }
          (.error (.fault reply.state.pc cause))).announcing reply.events
    | .error .crash =>
        (Reply.failed { emulator with machine := reply.state } .crash).announcing reply.events
    | .ok () =>
        let machine := reply.state.elapse emulator.config.timerTicksPerFrame.toNat
        (Reply.done { emulator with machine, frames := emulator.frames + 1 }).announcing
          (reply.events ++ frameEvents machine)

/-- Run one frame and take a picture of the screen. -/
def stepFrame (emulator : Emulator) : Reply Emulator (Except Halt Frame) :=
  let reply := emulator.emulateFrame
  { result := reply.result.map fun _ => reply.state.machine.screen.toFrame
    state := reply.state
    events := reply.events }

end Emulator

end Chip8
