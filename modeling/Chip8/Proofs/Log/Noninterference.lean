import Chip8.Proofs.Log.Live

namespace Chip8

/-!
# Recorders do not act back

Whatever is asked of an emulator, its machine and the host that it runs with,
the answers and everything that is left behind are the same under every
recorder: no level, limit, window, file or clock, and nothing that others do
with the recorder meanwhile, is ever seen by a program.
-/

/-- What a request is answered with. -/
inductive Answer where
  | done
  | loaded (result : Except LoadError Unit)
  | managed (result : Except EmulationError Unit)
  | stepped (result : Except Stop Unit)
  | framed (result : Except Halt Frame)
  | ran (result : Except Halt Bool)
  | byte (result : Except Stop UInt8)
  | word (result : Except Stop UInt16)
  | block (result : Except Stop (List UInt8))
  | pressed (result : Except Stop Bool)
  | key (key : Option (Fin 16))
  | keys (keypad : Keypad)
  | pixel (value : Option UInt32)
  | truth (value : Bool)
  | picture (frame : Frame)

/-- Whether the answer is a crash, behind which nothing is asked any more. -/
def Answer.isCrash : Answer → Bool
  | .stepped (.error .crash) => true
  | .framed (.error .crash) => true
  | .ran (.error .crash) => true
  | .byte (.error .crash) => true
  | .word (.error .crash) => true
  | .block (.error .crash) => true
  | .pressed (.error .crash) => true
  | _ => false

/-- What can be asked of a memory. -/
inductive MemoryRequest where
  | read (address : Nat)
  | write (address : Nat) (byte : UInt8)
  | readWord (address : Nat)
  | slice (address length : Nat)
  | writeSlice (address : Nat) (data : List UInt8)
  | clear
  | clearProgram
  | loadGlyphs

/-- What can be asked of a screen, drawings apart. -/
inductive ScreenRequest where
  | pixel (x y : Nat)
  | isOn (x y : Nat)
  | set (offset : Nat) (value : UInt32)
  | clear
  | toFrame

/-- What can be asked of a keypad. -/
inductive KeypadRequest where
  | isDown (key : UInt8)
  | firstDown
  | state
  | set (key : UInt8) (down : Bool)
  | setAll (keypad : Keypad)
  | releaseAll

/-- What can be asked of an emulator, of its machine and their parts. -/
inductive Request where
  | mount (place : String) (program : List UInt8)
  | unmount (place : String)
  | isMounted (place : String)
  | load (program : List UInt8)
  | reset
  | stepFrame
  | runFrame
  | step
  | tick
  | resetMachine
  | reseed (seed : UInt64)
  /-- Copy an image into memory and nothing else. -/
  | loadMemory (program : List UInt8)
  | draw (x y : UInt8) (rows : List UInt8)
  | ofMemory (request : MemoryRequest)
  | ofScreen (request : ScreenRequest)
  | ofKeypad (request : KeypadRequest)

/-- The answer of a memory and the memory afterwards. -/
def MemoryRequest.serve
    (memory : Memory) :
    MemoryRequest → Answer × Memory
  | .read address => (.byte (memory.read address), memory)
  | .write address byte =>
      match memory.write address byte with
      | .ok written => (.stepped (.ok ()), written)
      | .error stop => (.stepped (.error stop), memory)
  | .readWord address => (.word (memory.readWord address), memory)
  | .slice address length => (.block (memory.slice address length), memory)
  | .writeSlice address data =>
      match memory.writeSlice address data with
      | .ok written => (.stepped (.ok ()), written)
      | .error stop => (.stepped (.error stop), memory)
  | .clear => (.done, Memory.blank)
  | .clearProgram => (.done, memory.clearProgram)
  | .loadGlyphs => (.done, memory.loadGlyphs)

/-- The answer of a screen and the screen afterwards. -/
def ScreenRequest.serve
    (screen : Screen) :
    ScreenRequest → Answer × Screen
  | .pixel x y => (.pixel (screen.pixel? x y), screen)
  | .isOn x y => (.truth (screen.isOn x y), screen)
  | .set offset value => (.done, screen.set offset value)
  | .clear => (.done, Screen.blank)
  | .toFrame => (.picture screen.toFrame, screen)

/-- The answer of a keypad and the keypad afterwards. -/
def KeypadRequest.serve
    (keypad : Keypad) :
    KeypadRequest → Answer × Keypad
  | .isDown key => (.pressed (keypad.isDown key), keypad)
  | .firstDown => (.key keypad.firstDown?, keypad)
  | .state => (.keys keypad, keypad)
  | .set key down => (.done, keypad.set key down)
  | .setAll keys => (.done, keys)
  | .releaseAll => (.done, Keypad.released)

/-- An emulator and the host that it runs with. -/
structure Installation (H : Type) where
  emulator : Emulator
  host : H

namespace Request

open Live

variable {H : Type} [Host H]

/-- The same installation with another machine. -/
def withMachine
    (installed : Installation H)
    (machine : Machine) :
    Installation H :=
  { installed with emulator := { installed.emulator with machine } }

/-- The answer to a request, what it leaves behind and what it announces. -/
def serve
    (installed : Installation H) :
    Request → Reply (Installation H) Answer
  | .mount place program =>
      let reply := installed.emulator.mount place program
      ⟨.managed reply.result, { installed with emulator := reply.state }, reply.events⟩
  | .unmount place =>
      let reply := installed.emulator.unmount place
      ⟨.managed reply.result, { installed with emulator := reply.state }, reply.events⟩
  | .isMounted place =>
      ⟨.truth (installed.emulator.isMounted place), installed, []⟩
  | .load program =>
      let reply := installed.emulator.loadProgram program
      ⟨.managed reply.result, { installed with emulator := reply.state }, reply.events⟩
  | .reset =>
      let reply := installed.emulator.reset
      ⟨.done, { installed with emulator := reply.state }, reply.events⟩
  | .stepFrame =>
      let reply := installed.emulator.stepFrame
      ⟨.framed reply.result, { installed with emulator := reply.state }, reply.events⟩
  | .runFrame =>
      let reply := installed.emulator.runFrame installed.host
      ⟨.ran reply.result, ⟨reply.state.1, reply.state.2⟩, reply.events⟩
  | .step =>
      let reply := installed.emulator.machine.step
      ⟨.stepped reply.result, withMachine installed reply.state, reply.events⟩
  | .tick =>
      ⟨.done, withMachine installed installed.emulator.machine.tick, []⟩
  | .resetMachine =>
      ⟨.done, withMachine installed installed.emulator.machine.reset, []⟩
  | .reseed seed =>
      ⟨.done, withMachine installed (installed.emulator.machine.reseed seed), []⟩
  | .loadMemory program =>
      let reply := installed.emulator.machine.loadProgram program
      ⟨.loaded reply.result, withMachine installed reply.state, reply.events⟩
  | .draw x y rows =>
      let machine := installed.emulator.machine
      let drawing := machine.screen.draw x y rows
      ⟨.truth drawing.collision, withMachine installed { machine with screen := drawing.screen },
        drawing.events⟩
  | .ofMemory request =>
      let machine := installed.emulator.machine
      let (answer, memory) := request.serve machine.memory
      ⟨answer, withMachine installed { machine with memory }, []⟩
  | .ofScreen request =>
      let machine := installed.emulator.machine
      let (answer, screen) := request.serve machine.screen
      ⟨answer, withMachine installed { machine with screen }, []⟩
  | .ofKeypad request =>
      let machine := installed.emulator.machine
      let (answer, keypad) := request.serve machine.keypad
      ⟨answer, withMachine installed { machine with keypad }, []⟩

/-- Serve a request with a live recorder. -/
def serveLive
    (installed : Installation H) :
    Request → Live (Answer × Installation H)
  | .mount place program => do
      let (result, emulator) ← installed.emulator.mountLive place program
      return (.managed result, { installed with emulator })
  | .load program => do
      let (result, emulator) ← installed.emulator.loadProgramLive program
      return (.managed result, { installed with emulator })
  | .reset => do
      let (_, emulator) ← installed.emulator.resetLive
      return (.done, { installed with emulator })
  | .stepFrame => do
      let (result, emulator) ← installed.emulator.stepFrameLive
      return (.framed result, { installed with emulator })
  | .runFrame => do
      let (result, emulator, host) ← installed.emulator.runFrameLive installed.host
      return (.ran result, ⟨emulator, host⟩)
  | .step => do
      let (result, machine) ← installed.emulator.machine.stepLive
      return (.stepped result, withMachine installed machine)
  | .loadMemory program => do
      let (result, machine) ← installed.emulator.machine.loadProgramLive program
      return (.loaded result, withMachine installed machine)
  | .draw x y rows => do
      let (collision, screen) ← installed.emulator.machine.screen.drawLive x y rows
      return (.truth collision, withMachine installed { installed.emulator.machine with screen })
  | request =>
      return ((request.serve installed).result, (request.serve installed).state)

/-- The answers to requests, each with what it leaves behind, and what they announce. -/
def serveAll
    (installed : Installation H) :
    List Request → List (Answer × Installation H) × List Event
  | [] => ([], [])
  | request :: rest =>
      let reply := request.serve installed
      let later :=
        if reply.result.isCrash then
          ([], [])
        else
          serveAll reply.state rest
      ((reply.result, reply.state) :: later.1, reply.events ++ later.2)

/-- Serve requests one after the other with a live recorder. -/
def serveAllLive
    (installed : Installation H) :
    List Request → Live (List (Answer × Installation H))
  | [] =>
      return []
  | request :: rest => do
      let (answer, next) ← request.serveLive installed
      if answer.isCrash then
        return [(answer, next)]
      else
        let later ← serveAllLive next rest
        return (answer, next) :: later

/-- Serving a request logs what serving it announces. -/
theorem serveLive_follows
    (installed : Installation H)
    (request : Request) :
    (request.serveLive installed).Follows (request.serve installed) := by
  intro shared
  cases request with
  | mount place program =>
      simp only [serveLive, perform_bind, Emulator.mountLive_follows _ _ _ _]
      rfl
  | load program =>
      simp only [serveLive, perform_bind, Emulator.loadProgramLive_follows _ _ _]
      rfl
  | reset =>
      simp only [serveLive, perform_bind, Emulator.resetLive_follows _ _]
      rfl
  | stepFrame =>
      simp only [serveLive, perform_bind, Emulator.stepFrameLive_follows _ _]
      rfl
  | runFrame =>
      simp only [serveLive, perform_bind, Emulator.runFrameLive_follows _ _ _]
      rfl
  | step =>
      simp only [serveLive, perform_bind, Machine.stepLive_follows _ _]
      rfl
  | loadMemory program =>
      simp only [serveLive, perform_bind, Machine.loadProgramLive_follows _ _ _]
      rfl
  | draw x y rows =>
      simp only [serveLive, perform_bind, Screen.perform_drawLive]
      rfl
  | unmount place =>
      have silent : (serve installed (.unmount place)).events = [] := by
        simp only [serve, Emulator.unmount]
        split <;> rfl
      rw [silent]
      rfl
  | _ =>
      rfl

/-- Serving requests one after the other logs what all of them announce, in order. -/
theorem perform_serveAllLive
    (installed : Installation H)
    (requests : List Request)
    (shared : SharedRecorder) :
    (serveAllLive installed requests).perform shared =
      ((serveAll installed requests).1, shared.logAll (serveAll installed requests).2) := by
  induction requests generalizing installed shared with
  | nil =>
      rfl
  | cons request rest inductionHypothesis =>
      rw [serveAllLive, perform_bind, serveLive_follows, serveAll]
      dsimp only
      split
      next =>
        rw [perform_pure, List.append_nil]
      next =>
        rw [perform_bind, inductionHypothesis, SharedRecorder.logAll_append]
        rfl

/--
Under any two recorders, whatever others do with them meanwhile, all requests
have the same answers and leave the same behind.  These are the answers of the
operations that only return what they announce, and a recorder is left as if
the events had been recorded all at once.
-/
theorem recorders_do_not_act_back
    (installed : Installation H)
    (requests : List Request)
    (first second : SharedRecorder) :
    ((serveAllLive installed requests).perform first).1 =
        ((serveAllLive installed requests).perform second).1 ∧
      (serveAllLive installed requests).perform first =
        ((serveAll installed requests).1, first.logAll (serveAll installed requests).2) ∧
      ∀ recorder,
        (serveAllLive installed requests).perform (.unshared recorder) =
          ((serveAll installed requests).1,
            .unshared
              (recorder.behind (recorder.logger.recordAll (serveAll installed requests).2))) := by
  refine ⟨?_, perform_serveAllLive installed requests first, fun recorder => ?_⟩
  · rw [perform_serveAllLive, perform_serveAllLive]
  · rw [perform_serveAllLive, SharedRecorder.unshared_logAll]

end Request

end Chip8
