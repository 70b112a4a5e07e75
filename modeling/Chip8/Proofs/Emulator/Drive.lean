import Chip8.Proofs.Emulator.Frames
import Chip8.Proofs.Emulator.Mounting

namespace Chip8

/-!
# Driving an emulator

An emulator is driven frame by frame, with the same keys held down in each,
until a number of frames is completed or a frame is not.  Under a fixed seed the
entropy of an emulator has no part in what is seen of it.
-/

/-- What driving an emulator has given. -/
structure Driven where
  /-- The screen after each completed frame. -/
  screens : List Screen
  /-- The emulator at the end. -/
  last : Emulator
  /-- Why the frame behind the completed ones was not completed, unless it was not wanted. -/
  halt : Option Halt

/-- What driving has given when a frame with this screen was completed before. -/
def Driven.behind
    (driven : Driven)
    (screen : Screen) :
    Driven :=
  { driven with screens := screen :: driven.screens }

namespace Emulator

/-- Drive an emulator for a number of frames with the keys of a keypad held down. -/
def drive
    (emulator : Emulator)
    (keypad : Keypad) :
    Nat → Driven
  | 0 =>
      { screens := []
        last := emulator
        halt := none }
  | frames + 1 =>
      let reply := (emulator.withKeys keypad).stepFrame
      match reply.result with
      | .ok _ => (reply.state.drive keypad frames).behind reply.state.machine.screen
      | .error halt =>
          { screens := []
            last := reply.state
            halt := some halt }

/-- The same emulator with another entropy. -/
def withEntropy
    (emulator : Emulator)
    (entropy : UInt64) :
    Emulator :=
  { emulator with entropy }

variable {emulator : Emulator} {keypad : Keypad} {frames : Nat}

/-- A frame of a mounted emulator is completed and counted, or the step at its end stops it. -/
theorem emulateFrame_cases
    (mounted : emulator.program.isSome) :
    (emulator.emulateFrame.result = .ok () ∧
        emulator.emulateFrame.state.frames = emulator.frames + 1) ∨
      emulator.emulateFrame.result = .error .crash ∨
      ∃ cause,
        emulator.emulateFrame.result =
          .error (.error (.fault emulator.emulateFrame.state.machine.pc cause)) := by
  cases stops : emulator.machine.firstStop? emulator.config.cyclesPerFrame.toNat with
  | none =>
      obtain ⟨result, state⟩ := emulator.emulateFrame_of_noStop mounted stops
      refine .inl ⟨result, ?_⟩
      rw [state]
  | some stopped =>
      obtain ⟨count, cause | _⟩ := stopped
      · obtain ⟨result, state⟩ := emulator.emulateFrame_of_fault mounted stops
        refine .inr (.inr ⟨cause, ?_⟩)
        rw [result, state]
      · exact .inr (.inl (emulator.emulateFrame_of_crash mounted stops))

/-- A completed frame is counted. -/
theorem frames_emulateFrame
    (mounted : emulator.program.isSome)
    (completes : emulator.emulateFrame.result = .ok ()) :
    emulator.emulateFrame.state.frames = emulator.frames + 1 := by
  rcases emulateFrame_cases mounted with ⟨-, counted⟩ | ends | ⟨_, ends⟩
  · exact counted
  · rw [ends] at completes
    cases completes
  · rw [ends] at completes
    cases completes

/-- Driving ends with the first frame that is not completed. -/
theorem drive_of_halt
    {halt : Halt}
    (halts : (emulator.withKeys keypad).emulateFrame.result = .error halt) :
    emulator.drive keypad (frames + 1) =
      { screens := []
        last := (emulator.withKeys keypad).emulateFrame.state
        halt := some halt } := by
  simp [drive, stepFrame, halts, Except.map]

/-- Driving goes on behind a completed frame. -/
theorem drive_of_frame
    (completes : (emulator.withKeys keypad).emulateFrame.result = .ok ()) :
    emulator.drive keypad (frames + 1) =
      ((emulator.withKeys keypad).emulateFrame.state.drive keypad frames).behind
        (emulator.withKeys keypad).emulateFrame.state.machine.screen := by
  simp [drive, stepFrame, completes, Except.map]

/-- Driving a mounted emulator is ended by a crash, by the fault of a step or by the last frame. -/
theorem drive_halt
    (mounted : emulator.program.isSome)
    {halt : Halt}
    (halts : (emulator.drive keypad frames).halt = some halt) :
    halt = .crash ∨
      ∃ cause, halt = .error (.fault (emulator.drive keypad frames).last.machine.pc cause) := by
  induction frames generalizing emulator with
  | zero =>
      cases halts
  | succ frames inductionHypothesis =>
      have keyed : (emulator.withKeys keypad).program.isSome :=
        mounted
      rcases emulateFrame_cases keyed with ⟨ends, _⟩ | ends | ⟨cause, ends⟩
      · rw [drive_of_frame ends] at halts ⊢
        refine inductionHypothesis ?_ halts
        rw [emulateFrame_program]
        exact mounted
      · rw [drive_of_halt ends] at halts
        cases halts
        exact .inl rfl
      · rw [drive_of_halt ends] at halts ⊢
        cases halts
        exact .inr ⟨cause, rfl⟩

/-- When all frames are completed, the last screen, if there is one, is on the emulator at the end. -/
theorem drive_of_completed
    (completed : (emulator.drive keypad frames).halt = none) :
    (emulator.drive keypad frames).screens.length = frames ∧
      (emulator.drive keypad frames).last.machine.screen =
        (emulator.drive keypad frames).screens.getLast?.getD emulator.machine.screen := by
  induction frames generalizing emulator with
  | zero =>
      exact ⟨rfl, rfl⟩
  | succ frames inductionHypothesis =>
      cases ends : (emulator.withKeys keypad).emulateFrame.result with
      | error =>
          rw [drive_of_halt ends] at completed
          cases completed
      | ok =>
          rw [drive_of_frame ends] at completed ⊢
          obtain ⟨count, last⟩ := inductionHypothesis completed
          simp [Driven.behind, count, last, List.getLast?_cons]

/-- The entropy plays no part in a frame. -/
theorem emulateFrame_withEntropy
    (emulator : Emulator)
    (entropy : UInt64) :
    (emulator.withEntropy entropy).emulateFrame.result = emulator.emulateFrame.result ∧
      (emulator.withEntropy entropy).emulateFrame.state =
        emulator.emulateFrame.state.withEntropy entropy := by
  unfold emulateFrame withEntropy
  dsimp only
  split
  next =>
    exact ⟨rfl, rfl⟩
  next =>
    rcases emulator.machine.run _ with ⟨(cause | _) | _, machine, events⟩ <;> exact ⟨rfl, rfl⟩

/-- The entropy plays no part in driving. -/
theorem drive_withEntropy
    (emulator : Emulator)
    (keypad : Keypad)
    (frames : Nat)
    (entropy : UInt64) :
    (emulator.withEntropy entropy).drive keypad frames =
      { emulator.drive keypad frames with
        last := (emulator.drive keypad frames).last.withEntropy entropy } := by
  induction frames generalizing emulator with
  | zero =>
      rfl
  | succ frames inductionHypothesis =>
      obtain ⟨result, state⟩ := (emulator.withKeys keypad).emulateFrame_withEntropy entropy
      have keyed :
          (emulator.withEntropy entropy).withKeys keypad =
            (emulator.withKeys keypad).withEntropy entropy :=
        rfl
      rw [← keyed] at result state
      cases ends : (emulator.withKeys keypad).emulateFrame.result with
      | error =>
          rw [drive_of_halt ends, drive_of_halt (result.trans ends), state]
      | ok =>
          rw [drive_of_frame ends, drive_of_frame (result.trans ends), state, inductionHypothesis]
          rfl

/-- Under a fixed seed the entropy plays no part in mounting. -/
theorem mount_withEntropy
    {seed : UInt64}
    (seeded : emulator.config.seed = some seed)
    (place : String)
    (program : List UInt8)
    (entropy : UInt64) :
    ((emulator.withEntropy entropy).mount place program).result =
        (emulator.mount place program).result ∧
      ((emulator.withEntropy entropy).mount place program).state =
        (emulator.mount place program).state.withEntropy entropy := by
  have seeds : emulator.config.seedOr entropy = emulator.config.seedOr emulator.entropy := by
    simp [Config.seedOr, seeded]
  unfold mount loadProgram withEntropy
  dsimp only
  split
  next =>
    rcases emulator.machine.loadProgram program with ⟨_ | _, machine, events⟩
    · exact ⟨rfl, rfl⟩
    · simp [reset, seeds]
  next =>
    exact ⟨rfl, rfl⟩

/-- An emulator that has just mounted a program holds it and has completed no frame. -/
theorem mount_of_ok
    {program : List UInt8}
    (mounts : (emulator.mount programMount program).result = .ok ()) :
    (emulator.mount programMount program).state.program.isSome ∧
      (emulator.mount programMount program).state.frames = 0 := by
  simp only [mount, if_true] at mounts ⊢
  rcases emulator.loadProgram_cases program with ⟨_, _, state⟩ | ⟨_, _, result, _⟩
  · rw [state, reset_state]
    exact ⟨rfl, rfl⟩
  · rw [result] at mounts
    cases mounts

end Emulator

end Chip8
