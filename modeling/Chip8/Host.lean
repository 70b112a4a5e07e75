import Chip8.Emulator

namespace Chip8

/-!
# Hosts

A host supplies the keys before each frame and takes the screen after it.  It
ends a run by giving no keys.
-/

/-- Something that supplies keys and takes screens. -/
class Host (H : Type) where
  /-- The keys for the next frame, or nothing when the run is to end. -/
  poll : H → Option Keypad × H
  /-- Take the screen of a completed frame. -/
  present : H → Screen → H

/-- Ask the host for keys, run one frame and present it; false when the host ends the run. -/
def Emulator.runFrame
    {H : Type}
    [Host H]
    (emulator : Emulator)
    (host : H) :
    Reply (Emulator × H) (Except Halt Bool) :=
  match Host.poll host with
  | (none, host) =>
      { result := .ok false
        state := (emulator, host)
        events := [.stopRequested emulator.frames] }
  | (some keypad, host) =>
      let machine := { emulator.machine with keypad }
      let reply := Emulator.emulateFrame { emulator with machine }
      match reply.result with
      | .error halt =>
          { result := .error halt
            state := (reply.state, host)
            events := reply.events }
      | .ok () =>
          { result := .ok true
            state := (reply.state, Host.present host reply.state.machine.screen)
            events := reply.events }

/-- A host that plays a list of keypads, one a frame, and keeps every picture. -/
structure ScriptedHost where
  script : List Keypad
  /-- The pictures taken so far, the latest first. -/
  taken : List Frame
  deriving DecidableEq

namespace ScriptedHost

/-- A host with a script and no pictures. -/
def ofScript (script : List Keypad) : ScriptedHost where
  script :=
    script
  taken :=
    []

/-- A host that holds the same keys down for a number of frames. -/
def holding
    (keys : List UInt8)
    (frames : Nat) :
    ScriptedHost :=
  ofScript (List.replicate frames (Keypad.holding keys))

/-- A host that presses nothing for a number of frames. -/
def idle (frames : Nat) : ScriptedHost :=
  holding [] frames

/-- The pictures taken so far, the earliest first. -/
def frames (host : ScriptedHost) : List Frame :=
  host.taken.reverse

/-- The picture taken last. -/
def lastFrame? (host : ScriptedHost) : Option Frame :=
  host.taken.head?

/-- The number of frames left in the script. -/
def remaining (host : ScriptedHost) : Nat :=
  host.script.length

instance : Host ScriptedHost where
  poll host :=
    match host.script with
    | [] => (none, host)
    | keypad :: rest => (some keypad, { host with script := rest })
  present host screen :=
    { host with taken := screen.toFrame :: host.taken }

end ScriptedHost

end Chip8
