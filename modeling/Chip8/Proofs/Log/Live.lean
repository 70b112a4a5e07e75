import Chip8.Host
import Chip8.Proofs.Log.Sharing
import Chip8.Proofs.Machine.Announcements

namespace Chip8

/-!
# Work with a live recorder

Operations return what they announce.  A machine with a live recorder calls it
in the midst of its work instead: between two pixels of a sprite, before an
instruction is executed, after a fault was undone, when a host wants to stop.
Each operation is written here with its log calls at their places, and follows
the operation that returns its events: the result and the state are the same,
and the recorder is as if it had logged the events afterwards.
-/

/-- Work that calls a shared recorder on its way to an answer. -/
abbrev Live : Type → Type :=
  StateM SharedRecorder

namespace Live

variable {State Result : Type}

/-- Log an event now. -/
def announce (event : Event) : Live Unit :=
  modify fun shared => shared.log event

/-- Do the work with a recorder. -/
def perform
    {Answer : Type}
    (work : Live Answer)
    (shared : SharedRecorder) :
    Answer × SharedRecorder :=
  (work.run shared).run

/-- The work gives the result and the state of a reply and logs the events of the reply. -/
def Follows
    (work : Live (Result × State))
    (reply : Reply State Result) : Prop :=
  ∀ shared,
    work.perform shared = ((reply.result, reply.state), shared.logAll reply.events)

section Laws

variable {First Answer : Type} {shared : SharedRecorder}

/-- An answer alone logs nothing. -/
@[simp] theorem perform_pure
    (answer : Answer) :
    (pure answer : Live Answer).perform shared = (answer, shared) :=
  rfl

/-- An announcement logs its event. -/
@[simp] theorem perform_announce
    (event : Event) :
    (announce event).perform shared = ((), shared.log event) :=
  rfl

/-- What follows works with the recorder that was left to it. -/
@[simp] theorem perform_bind
    (first : Live First)
    (next : First → Live Answer) :
    (first >>= next).perform shared =
      (next (first.perform shared).1).perform (first.perform shared).2 :=
  rfl

/-- Changing the answer of some work logs nothing more. -/
@[simp] theorem perform_map
    (finish : First → Answer)
    (work : Live First) :
    (finish <$> work).perform shared =
      (finish (work.perform shared).1, (work.perform shared).2) :=
  rfl

end Laws

end Live

namespace Screen

open Live

/-- Flip the pixels of a sprite, announcing each that does not exist when its turn comes. -/
def flipAllLive
    (screen : Screen)
    (collision : Bool) :
    List Nat → Live (Bool × Screen)
  | [] =>
      pure (collision, screen)
  | offset :: rest =>
      if offset < pixelCount then
        (screen.flip offset).flipAllLive (collision || screen.isLit offset) rest
      else do
        announce (.clipped offset)
        screen.flipAllLive collision rest

/-- Draw a sprite and announce a collision at the end. -/
def drawLive
    (screen : Screen)
    (x y : UInt8)
    (rows : List UInt8) :
    Live (Bool × Screen) := do
  let (collision, after) ← screen.flipAllLive false (Sprite.offsets x y rows)
  if collision then
    announce (.collision (x.toNat % screenWidth) (y.toNat % screenHeight))
  return (collision, after)

/-- A pixel that does not exist is neither lit nor flipped. -/
theorem flip_outside
    {screen : Screen}
    {offset : Nat}
    (outside : ¬offset < pixelCount) :
    screen.isLit offset = false ∧ screen.flip offset = screen := by
  simp [isLit, flip, outside]

/-- Flipping pixels one after the other announces each that is clipped, in order. -/
theorem perform_flipAllLive
    (screen : Screen)
    (collision : Bool)
    (offsets : List Nat)
    (shared : SharedRecorder) :
    (screen.flipAllLive collision offsets).perform shared =
      ((offsets.foldl
          (fun (current, collision) offset =>
            (current.flip offset, collision || current.isLit offset))
          (screen, collision)).swap,
        shared.logAll
          ((offsets.filter fun offset => decide (pixelCount ≤ offset)).map Event.clipped)) := by
  induction offsets generalizing screen collision shared with
  | nil =>
      rfl
  | cons offset rest inductionHypothesis =>
      rw [flipAllLive, List.foldl_cons]
      by_cases inside : offset < pixelCount
      · rw [if_pos inside, inductionHypothesis,
          List.filter_cons_of_neg (by simpa using inside)]
      · have dropped :
            (screen.flip offset, collision || screen.isLit offset) = (screen, collision) := by
          rw [(flip_outside inside).1, (flip_outside inside).2, Bool.or_false]
        rw [if_neg inside, perform_bind, inductionHypothesis,
          List.filter_cons_of_pos (by simpa using inside)]
        dsimp only
        rw [dropped]
        rfl

/-- Drawing a sprite announces what the drawing is to announce. -/
theorem perform_drawLive
    (screen : Screen)
    (x y : UInt8)
    (rows : List UInt8)
    (shared : SharedRecorder) :
    (screen.drawLive x y rows).perform shared =
      (((screen.draw x y rows).collision, (screen.draw x y rows).screen),
        shared.logAll (screen.draw x y rows).events) := by
  rw [drawLive, perform_bind, perform_flipAllLive, draw, flipAll]
  rcases List.foldl _ (screen, false) (Sprite.offsets x y rows) with ⟨after, _ | _⟩
  · rfl
  · simp [SharedRecorder.logAll_append]

end Screen

namespace Machine

open Live

/-- Copy a program image into memory and announce it. -/
def loadProgramLive
    (machine : Machine)
    (program : List UInt8) :
    Live (Except LoadError Unit × Machine) :=
  match machine.memory.loadProgram program with
  | .ok memory => do
      announce (.loaded program.length)
      return (.ok (), { machine with memory })
  | .error error =>
      return (.error error, machine)

/-- Execute one instruction; three of them announce something on the way. -/
def executeLive
    (machine : Machine) :
    Instruction → Live (Except Stop Unit × Machine)
  | .copy x y =>
      match machine.semantics with
      | .corrected =>
          return (.ok (), machine.setRegister x (machine.register y))
      | .referenceExact => do
          announce (.copyIgnored x y)
          return (.ok (), machine)
  | .draw x y rows =>
      match machine.memory.slice machine.index.toNat rows.toNat with
      | .ok bytes => do
          let (collision, screen) ←
            machine.screen.drawLive (machine.register x) (machine.register y) bytes
          return (.ok (), setRegister { machine with screen } flagRegister (bit collision))
      | .error stop =>
          return (.error stop, machine)
  | .waitForKey x =>
      match machine.keypad.firstDown? with
      | some key =>
          return (.ok (), machine.setRegister x (UInt8.ofNat key.val))
      | none => do
          let waiting := { machine with pc := machine.pc - 2 }
          announce (.waiting waiting.pc)
          return (.ok (), waiting)
  | instruction =>
      return ((machine.execute instruction).result, (machine.execute instruction).state)

/-- Fetch, decode and execute one instruction, undoing it before its fault is announced. -/
def stepLive (machine : Machine) : Live (Except Stop Unit × Machine) :=
  match machine.memory.readWord machine.pc.toNat with
  | .error stop => do
      if let .fault cause := stop then
        announce (.fetchFault machine.pc cause)
      return (.error stop, machine)
  | .ok word =>
      match Instruction.decode? word with
      | none => do
          announce (.undefined machine.pc word)
          return (.ok (), machine.fetched word)
      | some instruction => do
          announce (.executed machine.pc word instruction)
          let (result, executed) ← (machine.fetched word).executeLive instruction
          match result with
          | .ok () =>
              return (.ok (), executed)
          | .error stop =>
              let undone := { executed with pc := machine.pc, lastWord := machine.lastWord }
              if let .fault cause := stop then
                announce (.faulted machine.pc word cause)
              return (.error stop, undone)

/-- Take up to `cycles` steps, stopping where one fails. -/
def runLive
    (machine : Machine) :
    Nat → Live (Except Stop Unit × Machine)
  | 0 =>
      return (.ok (), machine)
  | cycles + 1 => do
      let (result, next) ← machine.stepLive
      match result with
      | .ok () => next.runLive cycles
      | .error stop => return (.error stop, next)

/-- Loading a program logs what loading it announces. -/
theorem loadProgramLive_follows
    (machine : Machine)
    (program : List UInt8) :
    (machine.loadProgramLive program).Follows (machine.loadProgram program) := by
  intro shared
  unfold loadProgramLive loadProgram
  cases machine.memory.loadProgram program <;> rfl

/-- An instruction logs what it announces while it is carried out. -/
theorem executeLive_follows
    (machine : Machine)
    (instruction : Instruction) :
    (machine.executeLive instruction).Follows (machine.execute instruction) := by
  intro shared
  cases instruction with
  | copy x y =>
      simp only [executeLive, execute]
      cases machine.semantics <;> rfl
  | draw x y rows =>
      simp only [executeLive, execute, drawSprite]
      cases machine.memory.slice machine.index.toNat rows.toNat with
      | ok bytes =>
          simp only [perform_bind, Screen.perform_drawLive]
          rfl
      | error =>
          rfl
  | waitForKey x =>
      simp only [executeLive, execute, awaitKey]
      cases machine.keypad.firstDown? <;> rfl
  | _ =>
      rw [execute_events]
      rfl

/-- A step logs its fetch, its instruction and its fault as it announces them. -/
theorem stepLive_follows
    (machine : Machine) :
    machine.stepLive.Follows machine.step := by
  intro shared
  cases fetch : machine.memory.readWord machine.pc.toNat with
  | error stop =>
      simp only [stepLive, step, fetch]
      cases stop <;> rfl
  | ok word =>
      cases decoded : Instruction.decode? word with
      | none =>
          simp only [stepLive, step, fetch, decoded]
          rfl
      | some instruction =>
          have executes := executeLive_follows (machine.fetched word) instruction
          simp only [stepLive, step, fetch, decoded, perform_bind, perform_announce, executes _]
          rcases ((machine.fetched word).execute instruction).result with (cause | _) | _ <;>
            simp [SharedRecorder.logAll_append, faultEvents]

/-- A run logs, behind what was announced before it, what its steps announce one by one. -/
theorem perform_runLive
    (machine : Machine)
    (cycles : Nat)
    (announced : Array Event)
    (shared : SharedRecorder) :
    (machine.runLive cycles).perform (shared.logAll announced.toList) =
      (((runAnnouncing announced cycles machine).result,
          (runAnnouncing announced cycles machine).state),
        shared.logAll (runAnnouncing announced cycles machine).events) := by
  induction cycles generalizing machine announced with
  | zero =>
      rfl
  | succ cycles inductionHypothesis =>
      -- What a step logs joins what the steps before it announced.
      have together :
          (shared.logAll announced.toList).logAll machine.step.events =
            shared.logAll (announced ++ machine.step.events).toList := by
        simp [SharedRecorder.logAll_append]
      rw [runLive, perform_bind, stepLive_follows, runAnnouncing]
      cases ends : machine.step.result with
      | ok =>
          simp only [together]
          exact inductionHypothesis _ _
      | error =>
          simp only [together]
          rfl

/-- A run logs what it announces. -/
theorem runLive_follows
    (machine : Machine)
    (cycles : Nat) :
    (machine.runLive cycles).Follows (machine.run cycles) :=
  machine.perform_runLive cycles #[]

end Machine

namespace Emulator

open Live

/-- Return to power-on, load the mounted program again and announce when that fails. -/
def resetLive (emulator : Emulator) : Live (Unit × Emulator) := do
  let rested :=
    emulator.machine.reset.reseed (emulator.config.seedOr emulator.entropy)
  match emulator.program with
  | none =>
      return ((), { emulator with machine := rested, frames := 0 })
  | some program =>
      let (result, machine) ← rested.loadProgramLive program
      if let .error error := result then
        announce (.reloadFailed error)
      return ((), { emulator with machine, frames := 0 })

/-- Mount an image and restart; a rejected image changes nothing. -/
def loadProgramLive
    (emulator : Emulator)
    (program : List UInt8) :
    Live (Except EmulationError Unit × Emulator) := do
  let (result, machine) ← emulator.machine.loadProgramLive program
  match result with
  | .error error =>
      return (.error (.load error), { emulator with machine })
  | .ok () =>
      let (_, restarted) ← resetLive { emulator with machine, program := some program }
      return (.ok (), restarted)

/-- Mount an image at a named place. -/
def mountLive
    (emulator : Emulator)
    (place : String)
    (program : List UInt8) :
    Live (Except EmulationError Unit × Emulator) :=
  if place = programMount then
    emulator.loadProgramLive program
  else
    return (.error (.invalidMountPoint place), emulator)

/-- Run the instructions and the timer ticks of one frame, and announce the buzzer. -/
def emulateFrameLive (emulator : Emulator) : Live (Except Halt Unit × Emulator) :=
  if emulator.program.isNone then
    return (.error (.error .noProgram), emulator)
  else do
    let (result, machine) ← emulator.machine.runLive emulator.config.cyclesPerFrame.toNat
    match result with
    | .error (.fault cause) =>
        return (.error (.error (.fault machine.pc cause)), { emulator with machine })
    | .error .crash =>
        return (.error .crash, { emulator with machine })
    | .ok () =>
        let machine := machine.elapse emulator.config.timerTicksPerFrame.toNat
        if machine.soundActive then
          announce (.buzzer machine.soundTimer)
        return (.ok (), { emulator with machine, frames := emulator.frames + 1 })

/-- Run one frame and take a picture of the screen. -/
def stepFrameLive (emulator : Emulator) : Live (Except Halt Frame × Emulator) := do
  let (result, after) ← emulator.emulateFrameLive
  return (result.map fun _ => after.machine.screen.toFrame, after)

/-- Ask the host for keys, run one frame and present it, or announce that the host stops. -/
def runFrameLive
    {H : Type}
    [Host H]
    (emulator : Emulator)
    (host : H) :
    Live (Except Halt Bool × Emulator × H) :=
  match Host.poll host with
  | (none, host) => do
      announce (.stopRequested emulator.frames)
      return (.ok false, emulator, host)
  | (some keypad, host) => do
      let machine := { emulator.machine with keypad }
      let (result, after) ← emulateFrameLive { emulator with machine }
      match result with
      | .error halt =>
          return (.error halt, after, host)
      | .ok () =>
          return (.ok true, after, Host.present host after.machine.screen)

/-- A reset logs what it announces. -/
theorem resetLive_follows
    (emulator : Emulator) :
    emulator.resetLive.Follows emulator.reset := by
  intro shared
  unfold resetLive reset reload
  cases emulator.program with
  | none =>
      rfl
  | some program =>
      simp only [perform_bind, Machine.loadProgramLive_follows _ program _]
      rcases Machine.loadProgram _ program with ⟨_ | _, machine, events⟩ <;>
        simp [SharedRecorder.logAll_append]

/-- Mounting an image and restarting logs what both announce. -/
theorem loadProgramLive_follows
    (emulator : Emulator)
    (program : List UInt8) :
    (emulator.loadProgramLive program).Follows (emulator.loadProgram program) := by
  intro shared
  simp only [loadProgramLive, loadProgram, perform_bind,
    Machine.loadProgramLive_follows _ program _]
  rcases emulator.machine.loadProgram program with ⟨_ | _, machine, events⟩
  · rfl
  · simp [resetLive_follows _ _, SharedRecorder.logAll_append]

/-- Mounting at a named place logs what it announces. -/
theorem mountLive_follows
    (emulator : Emulator)
    (place : String)
    (program : List UInt8) :
    (emulator.mountLive place program).Follows (emulator.mount place program) := by
  intro shared
  unfold mountLive mount
  split
  next =>
    exact loadProgramLive_follows emulator program shared
  next =>
    rfl

/-- A frame logs what its steps announce and then the buzzer. -/
theorem emulateFrameLive_follows
    (emulator : Emulator) :
    emulator.emulateFrameLive.Follows emulator.emulateFrame := by
  intro shared
  unfold emulateFrameLive emulateFrame
  split
  next =>
    rfl
  next =>
    simp only [perform_bind, Machine.runLive_follows _ _ _]
    rcases emulator.machine.run _ with ⟨(cause | _) | _, machine, events⟩
    · rfl
    · rfl
    · simp only [frameEvents, Reply.announcing, Reply.done]
      split <;> simp [SharedRecorder.logAll_append]

/-- A frame that is stepped logs what it announces. -/
theorem stepFrameLive_follows
    (emulator : Emulator) :
    emulator.stepFrameLive.Follows emulator.stepFrame := by
  intro shared
  simp only [stepFrameLive, perform_bind, emulateFrameLive_follows _ _]
  rfl

/-- A frame with a host logs what it announces, whoever the host is. -/
theorem runFrameLive_follows
    {H : Type}
    [Host H]
    (emulator : Emulator)
    (host : H) :
    (emulator.runFrameLive host).Follows (emulator.runFrame host) := by
  intro shared
  unfold runFrameLive runFrame
  rcases Host.poll host with ⟨_ | keypad, host⟩
  · rfl
  · simp only [perform_bind, emulateFrameLive_follows _ _]
    rcases emulateFrame _ with ⟨_ | _, after, events⟩ <;> rfl

end Emulator

end Chip8
