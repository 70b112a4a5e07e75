import Chip8.Proofs.Emulator.Frames
import Chip8.Proofs.Emulator.Uses
import Chip8.Proofs.Machine.Reads

namespace Chip8

/-!
# Standing faults

A step that faults leaves the machine as it was, and whether a step faults does
not depend on keys or timers.  So an emulator whose frame met a fault meets it
again in every step and in every frame, however often it is driven and whatever
keys are down, until something else than keys and timers is written.
-/

/-- The components that a host changes when it sets keys and lets the timers run. -/
def Component.keysAndTimers : List Component :=
  [.keypad, .delayTimer, .soundTimer]

namespace Machine

variable {machine : Machine}

/-- A loop whose first step stops ends there. -/
theorem firstStop?_of_stop
    {stop : Stop}
    (stops : machine.step.result = .error stop)
    {cycles : Nat}
    (positive : 0 < cycles) :
    machine.firstStop? cycles = some (0, stop) := by
  obtain ⟨rest, rfl⟩ := Nat.exists_eq_succ_of_ne_zero (Nat.ne_of_gt positive)
  rw [firstStop?_succ, stops]

/-- The step that stops a loop is one of the loop's steps. -/
theorem step_of_firstStop?
    {cycles count : Nat}
    {stop : Stop}
    (stops : machine.firstStop? cycles = some (count, stop)) :
    count < cycles ∧ (machine.afterSteps count).step.result = .error stop := by
  obtain ⟨found, member, stopped⟩ := List.exists_of_findSome?_eq_some stops
  unfold stopAfter? at stopped
  split at stopped
  next => cases stopped
  next failed =>
    obtain ⟨rfl, rfl⟩ := Prod.mk.inj (Option.some.inj stopped)
    exact ⟨List.mem_range.mp member, failed⟩

/-- Setting the keys changes the keys only. -/
theorem setKeys_agreesOutside
    (machine : Machine)
    (keypad : Keypad) :
    AgreesOutside { machine with keypad } machine Component.keysAndTimers := by
  intro component seen
  cases component with
  | keypad => exact (seen (by decide)).elim
  | _ => rfl

/-- A tick changes the timers only. -/
theorem tick_agreesOutside
    (machine : Machine) :
    machine.tick.AgreesOutside machine Component.keysAndTimers := by
  intro component seen
  cases component with
  | delayTimer | soundTimer => exact (seen (by decide)).elim
  | _ => rfl

end Machine

/-- A failure after the value of a result was mapped is a failure of the result. -/
theorem error_of_map
    {Error Value Image : Type}
    {image : Value → Image}
    {result : Except Error Value}
    {error : Error}
    (failed : result.map image = .error error) :
    result = .error error := by
  cases result with
  | error found =>
      cases failed
      rfl
  | ok =>
      cases failed

/-- The use drives an emulator: it steps, runs a frame, sets keys or ticks. -/
inductive Use.Drives : Use → Prop where
  | stepFrame : Drives .stepFrame
  | runFrame {H : Type} [Host H] (host : H) : Drives (.runFrame host)
  | step : Drives (.act .step)
  | setKeys (keypad : Keypad) : Drives (.act (.setKeys keypad))
  | tick : Drives (.act .tick)

namespace Emulator

/-- A frame that an emulator steps, or runs with a host, reports a fault. -/
inductive FrameFaults
    (emulator : Emulator)
    (address : UInt16)
    (cause : Fault) :
    Emulator → Prop where
  | stepFrame
      (faults : emulator.stepFrame.result = .error (.error (.fault address cause))) :
      FrameFaults emulator address cause emulator.stepFrame.state
  | runFrame
      {H : Type}
      [Host H]
      (host : H)
      (faults : (emulator.runFrame host).result = .error (.error (.fault address cause))) :
      FrameFaults emulator address cause (emulator.runFrame host).state.1

/-- The next instruction faults, and every frame comes to it. -/
structure HaltedAt
    (emulator : Emulator)
    (address : UInt16)
    (cause : Fault) :
    Prop where
  mounted :
    emulator.program.isSome
  positive :
    0 < emulator.config.cyclesPerFrame.toNat
  pc :
    emulator.machine.pc = address
  faults :
    emulator.machine.step.result = .error (.fault cause)

/-- Whatever executes an instruction answers with the same fault and presents nothing. -/
structure AnswersFault
    (emulator : Emulator)
    (address : UInt16)
    (cause : Fault) :
    Prop where
  step :
    emulator.machine.step.result = .error (.fault cause) ∧ emulator.machine.pc = address
  stepFrame :
    emulator.stepFrame.result = .error (.error (.fault address cause))
  /-- The host that gave keys for the frame is left as it was after giving them. -/
  runFrame :
    ∀ {H : Type} [Host H] (host rest : H) (keypad : Keypad),
      Host.poll host = (some keypad, rest) →
      (emulator.runFrame host).result = .error (.error (.fault address cause)) ∧
        (emulator.runFrame host).state.2 = rest
  /-- A host that gives no keys ends the run before an instruction is executed. -/
  ended :
    ∀ {H : Type} [Host H] (host rest : H),
      Host.poll host = (none, rest) →
      (emulator.runFrame host).result = .ok false ∧ (emulator.runFrame host).state.2 = rest

variable {emulator after : Emulator} {address : UInt16} {cause : Fault}

/-- Other keys and other timers leave an emulator halted. -/
theorem HaltedAt.withMachine
    (halted : emulator.HaltedAt address cause)
    {machine : Machine}
    (agrees : machine.AgreesOutside emulator.machine Component.keysAndTimers) :
    HaltedAt { emulator with machine } address cause where
  mounted :=
    halted.mounted
  positive :=
    halted.positive
  pc :=
    (agrees .pc (by decide)).trans halted.pc
  faults := by
    have decided : machine.AgreesOn emulator.machine Machine.deciding :=
      agrees.agreesOn (by decide)
    exact (Machine.step_result_eq_of_agreesOn decided).trans halted.faults

/-- A frame of a halted emulator reports the fault and changes nothing. -/
theorem HaltedAt.emulateFrame
    (halted : emulator.HaltedAt address cause) :
    emulator.emulateFrame.result = .error (.error (.fault address cause)) ∧
      emulator.emulateFrame.state = emulator := by
  obtain ⟨result, state⟩ :=
    emulator.emulateFrame_of_fault halted.mounted
      (Machine.firstStop?_of_stop halted.faults halted.positive)
  have start : emulator.machine.afterSteps 0 = emulator.machine :=
    rfl
  rw [start] at result state
  rw [halted.pc] at result
  exact ⟨result, state⟩

/-- A frame that reports a fault leaves a halted emulator. -/
theorem haltedAt_of_emulateFrame
    (faulted : emulator.emulateFrame.result = .error (.error (.fault address cause))) :
    emulator.emulateFrame.state.HaltedAt address cause := by
  by_cases mounted : emulator.program.isSome
  · cases stops : emulator.machine.firstStop? emulator.config.cyclesPerFrame.toNat with
    | none =>
        rw [(emulator.emulateFrame_of_noStop mounted stops).1] at faulted
        cases faulted
    | some stopped =>
        obtain ⟨count, stop⟩ := stopped
        cases stop with
        | crash =>
            rw [emulator.emulateFrame_of_crash mounted stops] at faulted
            cases faulted
        | fault found =>
            obtain ⟨result, state⟩ := emulator.emulateFrame_of_fault mounted stops
            obtain ⟨before, faults⟩ := Machine.step_of_firstStop? stops
            simp only [result, Except.error.injEq, Halt.error.injEq,
              EmulationError.fault.injEq] at faulted
            obtain ⟨same, rfl⟩ := faulted
            rw [state]
            exact ⟨mounted, Nat.zero_lt_of_lt before, same, faults⟩
  · have unmounted : emulator.program.isNone := by
      simpa using mounted
    simp [emulateFrame, unmounted] at faulted

/-- A frame that faults leaves a halted emulator, whoever supplied its keys. -/
theorem FrameFaults.haltedAt
    (faulted : emulator.FrameFaults address cause after) :
    after.HaltedAt address cause := by
  cases faulted with
  | stepFrame faults =>
      exact haltedAt_of_emulateFrame (error_of_map faults)
  | runFrame host faults =>
      rcases poll_cases host with ⟨rest, polled⟩ | ⟨keypad, rest, polled⟩
      · rw [(runFrame_of_noKeys polled).1] at faults
        cases faults
      · obtain ⟨result, state, -⟩ := emulator.runFrame_of_keys polled
        rw [state]
        exact haltedAt_of_emulateFrame (error_of_map (result.symm.trans faults))

/-- An emulator that stands at a fault stands there under any keys. -/
theorem HaltedAt.withKeys
    (halted : emulator.HaltedAt address cause)
    (keypad : Keypad) :
    (emulator.withKeys keypad).HaltedAt address cause :=
  halted.withMachine (emulator.machine.setKeys_agreesOutside keypad)

/-- A halted emulator answers with its fault. -/
theorem HaltedAt.answersFault
    (halted : emulator.HaltedAt address cause) :
    emulator.AnswersFault address cause where
  step :=
    ⟨halted.faults, halted.pc⟩
  stepFrame := by
    rw [Emulator.stepFrame, halted.emulateFrame.1]
    rfl
  runFrame host rest keypad polled := by
    obtain ⟨result, -, presented⟩ := emulator.runFrame_of_keys polled
    have framed := (halted.withKeys keypad).emulateFrame.1
    rw [framed] at result
    exact ⟨result, presented _ framed⟩
  ended host rest polled := by
    obtain ⟨result, state⟩ := emulator.runFrame_of_noKeys polled
    exact ⟨result, congrArg Prod.snd state⟩

/-- Driving a halted emulator once changes its keys and timers only. -/
theorem HaltedAt.use?
    (halted : emulator.HaltedAt address cause)
    {use : Use}
    (drives : use.Drives) :
    ∃ machine,
      emulator.use? use = some { emulator with machine } ∧
        machine.AgreesOutside emulator.machine Component.keysAndTimers := by
  cases drives with
  | stepFrame =>
      refine ⟨emulator.machine, Reply.survivor?_eq_some_iff.mpr ?_, .refl _ _⟩
      rw [halted.answersFault.stepFrame]
      exact ⟨nofun, halted.emulateFrame.2⟩
  | runFrame host =>
      rcases poll_cases host with ⟨rest, polled⟩ | ⟨keypad, rest, polled⟩
      · obtain ⟨result, state⟩ := emulator.runFrame_of_noKeys polled
        refine ⟨emulator.machine, ?_, .refl _ _⟩
        simp [Emulator.use?, Reply.survivor?, result, state]
      · have result := (halted.answersFault.runFrame host rest keypad polled).1
        have state : (emulator.runFrame host).state.1 = emulator.withKeys keypad :=
          (emulator.runFrame_of_keys polled).2.1.trans (halted.withKeys keypad).emulateFrame.2
        refine ⟨_, ?_, emulator.machine.setKeys_agreesOutside keypad⟩
        simp only [Emulator.use?, Reply.survivor?, result, state, Option.map_some]
        rfl
  | step =>
      obtain ⟨result, state⟩ :=
        Machine.step_of_stop (Machine.step_result_eq_error_iff.mp halted.faults)
      refine ⟨emulator.machine, ?_, .refl _ _⟩
      simp [Emulator.use?, Machine.perform?, result, state]
  | setKeys keypad =>
      exact ⟨_, rfl, emulator.machine.setKeys_agreesOutside keypad⟩
  | tick =>
      exact ⟨_, rfl, emulator.machine.tick_agreesOutside⟩

/-- Driving a halted emulator changes its keys and timers only, however often it is driven. -/
theorem HaltedAt.useAll?
    (halted : emulator.HaltedAt address cause)
    {uses : List Use}
    (driven : ∀ use ∈ uses, use.Drives) :
    ∃ machine,
      emulator.useAll? uses = some { emulator with machine } ∧
        machine.AgreesOutside emulator.machine Component.keysAndTimers := by
  induction uses generalizing emulator with
  | nil =>
      exact ⟨emulator.machine, rfl, .refl _ _⟩
  | cons use rest inductionHypothesis =>
      obtain ⟨middle, used, agrees⟩ := halted.use? (driven use List.mem_cons_self)
      obtain ⟨machine, usedLater, further⟩ :=
        inductionHypothesis (halted.withMachine agrees)
          fun later member => driven later (List.mem_cons_of_mem _ member)
      refine ⟨machine, ?_, further.trans agrees⟩
      rw [Emulator.useAll?, used, Option.bind_some, usedLater]

/--
Once a frame has met a fault, driving the emulator changes its keys and timers
only, and whatever executes an instruction meets that fault at that address.
-/
theorem faults_are_sticky
    (faulted : emulator.FrameFaults address cause after)
    {uses : List Use}
    (driven : ∀ use ∈ uses, use.Drives) :
    ∃ machine,
      after.useAll? uses = some { after with machine } ∧
        machine.AgreesOutside after.machine Component.keysAndTimers ∧
        AnswersFault { after with machine } address cause := by
  obtain ⟨machine, used, agrees⟩ := faulted.haltedAt.useAll? driven
  exact ⟨machine, used, agrees, (faulted.haltedAt.withMachine agrees).answersFault⟩

/-- An emulator that starts a timer in its first frame and returns from nowhere in its second. -/
def returningLate : Emulator :=
  ((ofConfig { Config.standard with cyclesPerFrame := 2 } 0).loadProgram
    [0x60, 0x05, 0xF0, 0x15, 0x00, 0xEE]).state

/-- The second frame of a program faults; keys, ticks, frames and a step follow. -/
theorem returningLate_standsStill :
    let started := returningLate.stepFrame.state
    let uses : List Use :=
      [.act (.setKeys (Keypad.holding [3])), .stepFrame, .act .tick,
        .runFrame (ScriptedHost.idle 1), .act .step]
    started.FrameFaults 0x204 .stackUnderflow started.stepFrame.state ∧
      (∀ use ∈ uses, use.Drives) ∧
      ((started.stepFrame.state.useAll? uses).map fun emulator =>
          (emulator.machine.delayTimer, emulator.machine.pc, emulator.frames)) =
        some (3, 0x204, 1) ∧
      ∃ machine,
        started.stepFrame.state.useAll? uses = some { started.stepFrame.state with machine } ∧
          machine.AgreesOutside started.stepFrame.state.machine Component.keysAndTimers ∧
          AnswersFault { started.stepFrame.state with machine } 0x204 .stackUnderflow := by
  intro started uses
  have faulted : started.FrameFaults 0x204 .stackUnderflow started.stepFrame.state := by
    refine .stepFrame ?_
    decide +kernel
  have driven : ∀ use ∈ uses, use.Drives := by
    intro use member
    simp only [uses, List.mem_cons, List.not_mem_nil, or_false] at member
    rcases member with rfl | rfl | rfl | rfl | rfl <;> constructor
  refine ⟨faulted, driven, ?_, faults_are_sticky faulted driven⟩
  decide +kernel

end Emulator

end Chip8
