import Chip8.Host
import Chip8.Proofs.Machine.Loops

namespace Chip8

/-!
# Frames replayed

The frame driver polls a host, runs a machine and presents its screen.  A
replay does without host and emulator: it goes through the key script, takes
plain steps and single ticks, and writes down the pictures.  This module shows
that any number of calls of the driver with a scripted host gives what the
replay gives, call by call.
-/

/-- The picture of a screen: 64 columns and 32 rows, and all its pixels in reading order. -/
def Screen.picture (screen : Screen) : Frame where
  width :=
    64
  height :=
    32
  pixels :=
    screen.pixels.toList

/-- A screen gives its picture away, neither cut nor changed. -/
theorem Screen.toFrame_eq_picture
    (screen : Screen) :
    screen.toFrame = screen.picture :=
  rfl

/-- A machine that goes through a key script, with the pictures it wrote down. -/
structure Replay where
  machine : Machine
  /-- The number of frames completed. -/
  frames : Nat
  /-- The pictures of the completed frames, the earliest first. -/
  pictures : List Frame
  script : List Keypad

namespace Replay

/-- One frame of a replay, with what it answers; nothing when a step crashes. -/
def frame?
    (config : Config)
    (replay : Replay) :
    Option (Except EmulationError Bool × Replay) :=
  match replay.script with
  | [] => some (.ok false, replay)
  | keypad :: rest =>
      let start := { replay.machine with keypad }
      match start.firstStop? config.cyclesPerFrame.toNat with
      | some (_, .crash) => none
      | some (count, .fault cause) =>
          let machine := start.afterSteps count
          some (.error (.fault machine.pc cause), { replay with machine, script := rest })
      | none =>
          let machine :=
            (start.afterSteps config.cyclesPerFrame.toNat).afterTicks
              config.timerTicksPerFrame.toNat
          some (.ok true,
            { machine
              frames := replay.frames + 1
              pictures := replay.pictures ++ [machine.screen.picture]
              script := rest })

/-- The replay that an emulator and a scripted host are about to go through. -/
def start
    (emulator : Emulator)
    (host : ScriptedHost) :
    Replay where
  machine :=
    emulator.machine
  frames :=
    emulator.frames
  pictures :=
    host.frames
  script :=
    host.script

/-- The emulator and the host that a replay stands for. -/
def driven
    (emulator : Emulator)
    (replay : Replay) :
    Emulator × ScriptedHost :=
  ({ emulator with machine := replay.machine, frames := replay.frames },
    { script := replay.script, taken := replay.pictures.reverse })

/-- The replay that is about to start stands for the emulator and the host as they are. -/
theorem driven_start
    (emulator : Emulator)
    (host : ScriptedHost) :
    (start emulator host).driven emulator = (emulator, host) := by
  simp [driven, start, ScriptedHost.frames]

end Replay

/-- Make a number of calls one after another, whatever each answers; nothing once one crashes. -/
def answers?
    {State Answer : Type}
    (call : State → Option (Answer × State)) :
    Nat → State → Option (List Answer × State)
  | 0, state => some ([], state)
  | calls + 1, state =>
      (call state).bind fun (answer, next) =>
        (answers? call calls next).map fun (rest, final) => (answer :: rest, final)

/-- Calls that agree along a map of states agree however often they are made. -/
theorem answers?_map
    {Abstract Concrete Answer : Type}
    {abstractCall : Abstract → Option (Answer × Abstract)}
    {concreteCall : Concrete → Option (Answer × Concrete)}
    {represent : Abstract → Concrete}
    (agrees :
      ∀ state,
        concreteCall (represent state) = (abstractCall state).map (Prod.map id represent))
    (calls : Nat)
    (state : Abstract) :
    answers? concreteCall calls (represent state) =
      (answers? abstractCall calls state).map (Prod.map id represent) := by
  induction calls generalizing state with
  | zero =>
      rfl
  | succ calls inductionHypothesis =>
      simp only [answers?, agrees]
      cases abstractCall state with
      | none =>
          rfl
      | some answered =>
          simp only [Option.map_some, Option.bind_some, Prod.map, inductionHypothesis, id_eq,
            Option.map_map]
          rfl

namespace Emulator

/-- One call of the frame driver as its caller sees it; nothing when it crashes. -/
def call?
    {H : Type}
    [Host H]
    (system : Emulator × H) :
    Option (Except EmulationError Bool × (Emulator × H)) :=
  let reply := system.1.runFrame system.2
  match reply.result with
  | .ok more => some (.ok more, reply.state)
  | .error (.error cause) => some (.error cause, reply.state)
  | .error .crash => none

variable (emulator : Emulator)

/-- A frame in which a step faults reports the address of that step and ends before it. -/
theorem emulateFrame_of_fault
    {count : Nat}
    {cause : Fault}
    (mounted : emulator.program.isSome)
    (faults :
      emulator.machine.firstStop? emulator.config.cyclesPerFrame.toNat =
        some (count, .fault cause)) :
    emulator.emulateFrame.result =
        .error (.error (.fault (emulator.machine.afterSteps count).pc cause)) ∧
      emulator.emulateFrame.state =
        { emulator with machine := emulator.machine.afterSteps count } := by
  obtain ⟨result, state⟩ := Machine.runAnnouncing_of_stop #[] faults
  simp [emulateFrame, Machine.run, Option.isSome_iff_ne_none.mp mounted, result, state]

/-- A frame in which a step crashes does not come to an end. -/
theorem emulateFrame_of_crash
    {count : Nat}
    (mounted : emulator.program.isSome)
    (crashes :
      emulator.machine.firstStop? emulator.config.cyclesPerFrame.toNat = some (count, .crash)) :
    emulator.emulateFrame.result = .error .crash := by
  obtain ⟨result, -⟩ := Machine.runAnnouncing_of_stop #[] crashes
  simp [emulateFrame, Machine.run, Option.isSome_iff_ne_none.mp mounted, result]

/-- A frame in which no step stops takes all its steps and then all its ticks. -/
theorem emulateFrame_of_noStop
    (mounted : emulator.program.isSome)
    (runs : emulator.machine.firstStop? emulator.config.cyclesPerFrame.toNat = none) :
    emulator.emulateFrame.result = .ok () ∧
      emulator.emulateFrame.state =
        { emulator with
          machine :=
            (emulator.machine.afterSteps emulator.config.cyclesPerFrame.toNat).afterTicks
              emulator.config.timerTicksPerFrame.toNat
          frames := emulator.frames + 1 } := by
  obtain ⟨result, state⟩ := Machine.runAnnouncing_of_noStop #[] runs
  simp [emulateFrame, Machine.run, Option.isSome_iff_ne_none.mp mounted, result, state,
    Machine.afterTicks_eq_elapse]

variable {emulator}

/-- One call of the driver is one frame of the replay. -/
theorem call?_driven
    (mounted : emulator.program.isSome)
    (replay : Replay) :
    call? (replay.driven emulator) =
      (replay.frame? emulator.config).map (Prod.map id (Replay.driven emulator)) := by
  obtain ⟨machine, frames, pictures, script⟩ := replay
  cases script with
  | nil =>
      rfl
  | cons keypad rest =>
      let keyed : Emulator := { emulator with machine := { machine with keypad }, frames }
      -- The first stop decides how the frame ends, for the driver and for the replay alike.
      cases stops :
          Machine.firstStop? { machine with keypad } emulator.config.cyclesPerFrame.toNat with
      | none =>
          obtain ⟨result, state⟩ := keyed.emulateFrame_of_noStop mounted stops
          simp only [keyed] at result state
          simp [call?, Replay.driven, runFrame, Host.poll, Host.present, Replay.frame?, stops,
            result, state, Screen.toFrame_eq_picture]
      | some stopped =>
          obtain ⟨count, stop⟩ := stopped
          cases stop with
          | fault cause =>
              obtain ⟨result, state⟩ := keyed.emulateFrame_of_fault mounted stops
              simp only [keyed] at result state
              simp [call?, Replay.driven, runFrame, Host.poll, Replay.frame?, stops, result, state]
          | crash =>
              have result := keyed.emulateFrame_of_crash mounted stops
              simp only [keyed] at result
              simp [call?, Replay.driven, runFrame, Host.poll, Replay.frame?, stops, result]

/-- The emulator with the keys of a frame already set. -/
def withKeys
    (emulator : Emulator)
    (keypad : Keypad) :
    Emulator :=
  { emulator with machine := { emulator.machine with keypad } }

/-- A frame run with a scripted keypad is the frame stepped with these keys already set. -/
structure StepsAlike
    (emulator : Emulator)
    (host : ScriptedHost)
    (keypad : Keypad)
    (rest : List Keypad) : Prop where
  result :
    (emulator.runFrame host).result = (emulator.withKeys keypad).stepFrame.result.map fun _ => true
  state :
    (emulator.runFrame host).state.1 = (emulator.withKeys keypad).stepFrame.state
  script :
    (emulator.runFrame host).state.2.script = rest
  /-- The picture that stepping returns, if it returns one, is the picture recorded. -/
  pictures :
    (emulator.runFrame host).state.2.frames =
      host.frames ++ (emulator.withKeys keypad).stepFrame.result.toOption.toList
  /-- It is the picture of the screen at the end of the frame. -/
  shown :
    ∀ frame,
      (emulator.withKeys keypad).stepFrame.result = .ok frame →
      frame = (emulator.withKeys keypad).stepFrame.state.machine.screen.picture

/-- A frame that is stepped returns the picture of the screen that it leaves. -/
theorem stepFrame_picture
    {frame : Frame}
    (returns : emulator.stepFrame.result = .ok frame) :
    frame = emulator.stepFrame.state.machine.screen.picture := by
  simp only [stepFrame] at returns
  cases framed : emulator.emulateFrame.result with
  | error =>
      rw [framed] at returns
      cases returns
  | ok =>
      rw [framed] at returns
      exact (Except.ok.inj returns).symm.trans (Screen.toFrame_eq_picture _)

/-- A scripted frame and the same frame stepped are one frame of the emulator with its keys set. -/
theorem stepsAlike
    (emulator : Emulator)
    {host : ScriptedHost}
    {keypad : Keypad}
    {rest : List Keypad}
    (scripted : host.script = keypad :: rest) :
    emulator.StepsAlike host keypad rest := by
  obtain ⟨script, taken⟩ := host
  subst scripted
  cases framed : (emulator.withKeys keypad).emulateFrame.result with
  | error halt =>
      simp only [withKeys] at framed
      constructor
      case shown =>
        exact fun _ => stepFrame_picture
      all_goals
        simp [runFrame, stepFrame, Host.poll, framed, withKeys, Except.map, Except.toOption,
          ScriptedHost.frames]
  | ok =>
      simp only [withKeys] at framed
      constructor
      case shown =>
        exact fun _ => stepFrame_picture
      all_goals
        simp [runFrame, stepFrame, Host.poll, Host.present, framed, withKeys, Except.map,
          Except.toOption, ScriptedHost.frames]

/-- Driving a mounted emulator through a key script is replaying the script on its machine. -/
theorem runFrame_refines_replay
    (emulator : Emulator)
    (mounted : emulator.program.isSome)
    (host : ScriptedHost) :
    (∀ calls,
      answers? call? calls (emulator, host) =
        (answers? (Replay.frame? emulator.config) calls (Replay.start emulator host)).map
          (Prod.map id (Replay.driven emulator))) ∧
    (∀ (machine : Machine) ticks,
      (machine.afterTicks ticks).delayTimer.toNat = machine.delayTimer.toNat - ticks ∧
        (machine.afterTicks ticks).soundTimer.toNat = machine.soundTimer.toNat - ticks) ∧
    (∀ keypad rest,
      host.script = keypad :: rest → emulator.StepsAlike host keypad rest) := by
  refine ⟨?_, ?_, ?_⟩
  · intro calls
    rw [← Replay.driven_start emulator host]
    exact answers?_map (call?_driven mounted) calls (Replay.start emulator host)
  · intro machine ticks
    rw [Machine.afterTicks_eq_elapse]
    constructor
    · exact Machine.timer_toNat machine.delayTimer ticks
    · exact Machine.timer_toNat machine.soundTimer ticks
  · intro keypad rest scripted
    exact emulator.stepsAlike scripted

/--
An emulator that starts a timer and draws two pixels in its first frame and
returns from nowhere in its second.
-/
def drawingEarly : Emulator :=
  ((ofConfig { Config.standard with cyclesPerFrame := 4 } 0).loadProgram
    [0x60, 0x05, 0xF0, 0x15, 0xA2, 0x00, 0xD0, 0x01, 0x00, 0xEE]).state

/-- A dark picture but for the pixels in columns 6 and 7 of row 5. -/
def twoPixels : Frame where
  width :=
    64
  height :=
    32
  pixels :=
    List.replicate (5 * 64 + 6) 0 ++ [0xFFFFFFFF, 0xFFFFFFFF] ++ List.replicate (26 * 64 + 56) 0

/-- A completed frame, a faulting one and a call at the end of the script. -/
theorem drawingEarly_replayed :
    drawingEarly.program.isSome ∧
      answers? call? 3 (drawingEarly, ScriptedHost.idle 2) =
        (answers? (Replay.frame? drawingEarly.config) 3
          (Replay.start drawingEarly (ScriptedHost.idle 2))).map
            (Prod.map id (Replay.driven drawingEarly)) ∧
      ((answers? call? 3 (drawingEarly, ScriptedHost.idle 2)).map fun (answers, emulator, host) =>
          (answers, emulator.machine.delayTimer, emulator.frames, host.frames)) =
        some ([.ok true, .error (.fault 0x208 .stackUnderflow), .ok false], 4, 1, [twoPixels]) ∧
      drawingEarly.StepsAlike (ScriptedHost.idle 2) (Keypad.holding []) [Keypad.holding []] := by
  have mounted : drawingEarly.program.isSome := by
    decide +kernel
  obtain ⟨replayed, -, alike⟩ :=
    runFrame_refines_replay drawingEarly mounted (ScriptedHost.idle 2)
  refine ⟨mounted, replayed 3, ?_, alike _ _ rfl⟩
  decide +kernel

end Emulator

end Chip8
