import Chip8.Host
import Chip8.Proofs.Machine.Effects
import Mathlib.Logic.Relation

namespace Chip8

/-!
# Restarts

Whatever was done with an emulator before, mounting a program or resetting
leaves nothing of it: the emulator is then a new one with the same settings on
which the program was mounted.  What a history cannot change is small enough to
list, and a restart depends on nothing else.
-/

namespace Machine

variable (machine : Machine)

/-- Running instructions changes no reading of them. -/
theorem runAnnouncing_semantics
    (announced : Array Event)
    (cycles : Nat) :
    (runAnnouncing announced cycles machine).state.semantics = machine.semantics := by
  induction cycles generalizing machine announced with
  | zero =>
      rfl
  | succ cycles inductionHypothesis =>
      rw [runAnnouncing]
      cases machine.step.result with
      | error stop =>
          exact machine.step_semantics
      | ok =>
          exact (inductionHypothesis machine.step.state _).trans machine.step_semantics

/-- A machine at power-on has the reading that it was given. -/
theorem powerOn_semantics
    (semantics : Semantics)
    (random : RandomStream) :
    (powerOn semantics random).semantics = semantics := by
  simp only [powerOn]

/-- A machine that is reset under a seed is one at power-on with the numbers of that seed. -/
theorem reset_reseed
    (seed : UInt64) :
    machine.reset.reseed seed = powerOn machine.semantics (RandomStream.ofSeed seed) := by
  rw [reset_eq_powerOn]
  unfold reseed powerOn
  -- The bytes of memory are the same on both sides and are not to be computed.
  generalize Memory.powerOn = memory
  rfl

/-- An image is copied into memory when its length passes the check, and rejected else. -/
theorem loadProgram_cases
    (program : List UInt8) :
    (Memory.checkProgram program = .ok () ∧ (machine.loadProgram program).result = .ok () ∧
      (machine.loadProgram program).state =
        { machine with memory := machine.memory.fill programStart program }) ∨
    (∃ error, Memory.checkProgram program = .error error ∧
      (machine.loadProgram program).result = .error error ∧
      (machine.loadProgram program).state = machine) := by
  cases checked : Memory.checkProgram program with
  | error error =>
      refine .inr ⟨error, rfl, ?_, ?_⟩ <;>
        simp [loadProgram, Memory.loadProgram, checked, bind, Except.bind]
  | ok =>
      refine .inl ⟨rfl, ?_, ?_⟩ <;>
        simp [loadProgram, Memory.loadProgram, checked, bind, Except.bind]

end Machine

namespace Emulator

/-- One use of an emulator: an operation, whatever it answers, or a write to its machine. -/
inductive Operates : Emulator → Emulator → Prop
  | mount (emulator : Emulator) (place : String) (program : List UInt8) :
      Operates emulator (emulator.mount place program).state
  | load (emulator : Emulator) (program : List UInt8) :
      Operates emulator (emulator.loadProgram program).state
  | unmount (emulator : Emulator) (place : String) :
      Operates emulator (emulator.unmount place).state
  | reset (emulator : Emulator) :
      Operates emulator emulator.reset.state
  | stepFrame (emulator : Emulator) :
      Operates emulator emulator.stepFrame.state
  | runFrame (emulator : Emulator) {H : Type} [Host H] (host : H) :
      Operates emulator (emulator.runFrame host).state.1
  /-- Everything in the machine may be written but its semantics. -/
  | write (emulator : Emulator) (machine : Machine)
      (same : machine.semantics = emulator.machine.semantics) :
      Operates emulator { emulator with machine }

/-- What no use of an emulator changes: its settings, and that its program can be loaded. -/
structure Configured
    (emulator : Emulator)
    (config : Config) : Prop where
  settings : emulator.config = config
  semantics : emulator.machine.semantics = config.semantics
  loadable : ∀ program, emulator.program = some program → Memory.checkProgram program = .ok ()

/-- The emulator that settings, a source of entropy and a program determine. -/
def restarted
    (config : Config)
    (entropy : UInt64)
    (program : Option (List UInt8)) :
    Emulator where
  machine :=
    (reload
      (Machine.powerOn config.semantics (RandomStream.ofSeed (config.seedOr entropy)))
      program).state
  config :=
    config
  entropy :=
    entropy
  program :=
    program
  frames :=
    0

/--
The emulator is, but for its source of entropy, a new one with the settings, on
which the program, if there is one, was mounted.
-/
structure IsNewWith
    (emulator : Emulator)
    (config : Config)
    (program? : Option (List UInt8)) : Prop where
  unmounted :
    program? = none →
    ∀ entropy, { emulator with entropy } = ofConfig config entropy
  mounted :
    ∀ program,
      program? = some program →
      ∀ entropy,
        ((ofConfig config entropy).mount programMount program).result = .ok () ∧
          { emulator with entropy } =
            ((ofConfig config entropy).mount programMount program).state

section

variable {config : Config} {emulator : Emulator} {program : List UInt8}

/-- A new emulator is configured as it was asked for. -/
theorem ofConfig_configured
    (config : Config)
    (entropy : UInt64) :
    (ofConfig config entropy).Configured config where
  settings :=
    rfl
  semantics :=
    rfl
  loadable _ mounted :=
    nomatch mounted

/-- Writing the machine and counting frames leaves an emulator configured. -/
theorem Configured.withMachine
    (configured : emulator.Configured config)
    {machine : Machine}
    (semantics : machine.semantics = emulator.machine.semantics)
    (frames : Nat) :
    Configured { emulator with machine, frames } config :=
  ⟨configured.settings, semantics.trans configured.semantics, configured.loadable⟩

/-- Copying the mounted image into a machine changes no reading. -/
theorem reload_semantics
    (machine : Machine)
    (program : Option (List UInt8)) :
    (reload machine program).state.semantics = machine.semantics := by
  cases program with
  | none =>
      rfl
  | some program =>
      rcases machine.loadProgram_cases program with
        ⟨_, result, state⟩ | ⟨error, _, result, state⟩ <;>
        simp [reload, result, state]

/-- A reset depends on the semantics, the settings and the program only. -/
theorem reset_state
    (emulator : Emulator) :
    emulator.reset.state =
      { emulator with
        machine :=
          (reload
            (Machine.powerOn emulator.machine.semantics
              (RandomStream.ofSeed (emulator.config.seedOr emulator.entropy)))
            emulator.program).state
        frames := 0 } := by
  simp only [reset, Machine.reset_reseed]

/-- A reset keeps the configuration. -/
theorem Configured.reset
    (configured : emulator.Configured config) :
    emulator.reset.state.Configured config := by
  rw [reset_state]
  exact configured.withMachine
    ((reload_semantics _ emulator.program).trans (Machine.powerOn_semantics _ _)) 0

/-- A program that is accepted is mounted and the emulator reset; one that is rejected is not. -/
theorem loadProgram_cases
    (emulator : Emulator)
    (program : List UInt8) :
    (Memory.checkProgram program = .ok () ∧ (emulator.loadProgram program).result = .ok () ∧
      (emulator.loadProgram program).state =
        (Emulator.reset { emulator with
          machine := (emulator.machine.loadProgram program).state
          program := some program }).state) ∨
    (∃ error, Memory.checkProgram program = .error error ∧
      (emulator.loadProgram program).result = .error (.load error) ∧
      (emulator.loadProgram program).state = emulator) := by
  rcases emulator.machine.loadProgram_cases program with
    ⟨checked, result, _⟩ | ⟨error, rejected, result, state⟩
  · refine .inl ⟨checked, ?_, ?_⟩ <;>
      simp [loadProgram, result]
  · refine .inr ⟨error, rejected, ?_, ?_⟩ <;>
      simp [loadProgram, result, state]

/-- Loading leaves an emulator configured that has the program as its own. -/
theorem Configured.mounting
    (configured : emulator.Configured config)
    (checked : Memory.checkProgram program = .ok ()) :
    Configured
      { emulator with
        machine := (emulator.machine.loadProgram program).state
        program := some program }
      config where
  settings :=
    configured.settings
  semantics := by
    rcases emulator.machine.loadProgram_cases program with
      ⟨_, _, state⟩ | ⟨_, _, _, state⟩ <;>
      rw [state] <;>
      exact configured.semantics
  loadable other same := by
    obtain rfl := Option.some.inj same
    exact checked

/-- Loading an image keeps the configuration, whether the image is accepted or not. -/
theorem Configured.load
    (configured : emulator.Configured config)
    (program : List UInt8) :
    (emulator.loadProgram program).state.Configured config := by
  rcases emulator.loadProgram_cases program with ⟨checked, _, state⟩ | ⟨_, _, _, state⟩
  · rw [state]
    exact (configured.mounting checked).reset
  · rw [state]
    exact configured

/-- A frame changes the machine, but not its semantics, and the number of frames. -/
theorem emulateFrame_state
    (emulator : Emulator) :
    ∃ machine frames,
      machine.semantics = emulator.machine.semantics ∧
        emulator.emulateFrame.state = { emulator with machine, frames } := by
  unfold emulateFrame
  by_cases unmounted : emulator.program.isNone
  · exact ⟨emulator.machine, emulator.frames, rfl, by simp [unmounted]⟩
  · have kept :
        (emulator.machine.run emulator.config.cyclesPerFrame.toNat).state.semantics =
          emulator.machine.semantics :=
      emulator.machine.runAnnouncing_semantics #[] _
    simp only [unmounted, Bool.false_eq_true, if_false]
    split
    next => exact ⟨_, emulator.frames, kept, rfl⟩
    next => exact ⟨_, emulator.frames, kept, rfl⟩
    next =>
      refine ⟨_, emulator.frames + 1, ?_, rfl⟩
      exact kept

/-- A frame keeps the configuration. -/
theorem Configured.emulateFrame
    (configured : emulator.Configured config) :
    emulator.emulateFrame.state.Configured config := by
  obtain ⟨machine, frames, semantics, state⟩ := emulator.emulateFrame_state
  rw [state]
  exact configured.withMachine semantics frames

/-- Mounting keeps the configuration, whether it succeeds or not. -/
theorem Configured.mount
    (configured : emulator.Configured config)
    (place : String)
    (program : List UInt8) :
    (emulator.mount place program).state.Configured config := by
  unfold Emulator.mount
  split
  next => exact configured.load program
  next => exact configured

/-- Unmounting keeps the configuration, whether it succeeds or not. -/
theorem Configured.unmount
    (configured : emulator.Configured config)
    (place : String) :
    (emulator.unmount place).state.Configured config := by
  have withoutProgram
      (memory : Memory) :
      Configured
        { emulator with machine := { emulator.machine with memory }, program := none } config :=
    ⟨configured.settings, configured.semantics, fun _ mounted => nomatch mounted⟩
  unfold Emulator.unmount
  by_cases named : place = programMount
  · rw [if_pos named, Reply.done_state]
    exact withoutProgram emulator.machine.memory.clearProgram
  · rw [if_neg named, Reply.failed_state]
    exact configured

/-- Running a frame with a host keeps the configuration. -/
theorem Configured.runFrame
    {H : Type}
    [Host H]
    (configured : emulator.Configured config)
    (host : H) :
    (emulator.runFrame host).state.1.Configured config := by
  unfold Emulator.runFrame
  split
  next => exact configured
  next keypad host _ =>
    have keyed :
        Configured { emulator with machine := { emulator.machine with keypad } } config :=
      ⟨configured.settings, configured.semantics, configured.loadable⟩
    simp only
    split <;> exact keyed.emulateFrame

/-- No use of an emulator changes its settings or mounts a program that cannot be loaded. -/
theorem Configured.operates
    {after : Emulator}
    (configured : emulator.Configured config)
    (operates : Operates emulator after) :
    after.Configured config := by
  cases operates with
  | mount place program => exact configured.mount place program
  | load program => exact configured.load program
  | unmount place => exact configured.unmount place
  | reset => exact configured.reset
  | stepFrame => exact configured.emulateFrame
  | runFrame host => exact configured.runFrame host
  | write machine same => exact configured.withMachine same emulator.frames

/-- What no use changes holds after any history of uses. -/
theorem configured_of_history
    {entropy : UInt64}
    (history : Relation.ReflTransGen Operates (ofConfig config entropy) emulator) :
    emulator.Configured config := by
  induction history with
  | refl =>
      exact ofConfig_configured config entropy
  | tail _ operates inductionHypothesis =>
      exact inductionHypothesis.operates operates

/-- An emulator that is reset is one that was restarted with its image. -/
theorem Configured.reset_eq
    (configured : emulator.Configured config) :
    emulator.reset.state = restarted config emulator.entropy emulator.program := by
  rw [reset_state, configured.settings, configured.semantics]
  rfl

/-- An emulator that has loaded an image is one that was restarted with it. -/
theorem Configured.load_eq
    (configured : emulator.Configured config)
    (loaded : (emulator.loadProgram program).result = .ok ()) :
    Memory.checkProgram program = .ok () ∧
      (emulator.loadProgram program).state = restarted config emulator.entropy (some program) := by
  rcases emulator.loadProgram_cases program with ⟨checked, _, state⟩ | ⟨error, _, result, _⟩
  · exact ⟨checked, state.trans (configured.mounting checked).reset_eq⟩
  · simp [result] at loaded

/-- With a seed in the settings the source of entropy is of no account. -/
theorem restarted_entropy
    {seed : UInt64}
    (seeded : config.seed = some seed)
    (first second : UInt64)
    (program? : Option (List UInt8)) :
    { restarted config first program? with entropy := second } =
      restarted config second program? := by
  have seeds : config.seedOr first = config.seedOr second := by
    simp [Config.seedOr, seeded]
  simp only [restarted, seeds]

/-- A restarted emulator is a new one on which the program was mounted. -/
theorem restarted_isNewWith
    {seed : UInt64}
    (seeded : config.seed = some seed)
    (entropy : UInt64)
    {program? : Option (List UInt8)}
    (loadable : ∀ program, program? = some program → Memory.checkProgram program = .ok ()) :
    (restarted config entropy program?).IsNewWith config program? where
  unmounted absent other := by
    subst absent
    exact restarted_entropy seeded entropy other none
  mounted program present other := by
    subst present
    have accepted : ((ofConfig config other).loadProgram program).result = .ok () := by
      rcases (ofConfig config other).loadProgram_cases program with
        ⟨_, result, _⟩ | ⟨error, rejected, _⟩
      · exact result
      · rw [loadable program rfl] at rejected
        cases rejected
    rw [mount, if_pos rfl, restarted_entropy seeded entropy other]
    exact ⟨accepted, ((ofConfig_configured config other).load_eq accepted).2.symm⟩

/-- Mounting a program and resetting leave an emulator that is new but for the program. -/
theorem restart_isNewWith
    {seed entropy : UInt64}
    (seeded : config.seed = some seed)
    (history : Relation.ReflTransGen Operates (ofConfig config entropy) emulator) :
    (∀ place program,
      (emulator.mount place program).result = .ok () →
      (emulator.mount place program).state.IsNewWith config (some program)) ∧
    (∀ program,
      (emulator.loadProgram program).result = .ok () →
      (emulator.loadProgram program).state.IsNewWith config (some program)) ∧
    emulator.reset.state.IsNewWith config emulator.program := by
  have configured := configured_of_history history
  have loading
      (program : List UInt8)
      (loaded : (emulator.loadProgram program).result = .ok ()) :
      (emulator.loadProgram program).state.IsNewWith config (some program) := by
    obtain ⟨checked, state⟩ := configured.load_eq loaded
    rw [state]
    exact restarted_isNewWith seeded emulator.entropy (configured.mounting checked).loadable
  refine ⟨?_, loading, ?_⟩
  · intro place program mounted
    by_cases named : place = programMount
    · rw [mount, if_pos named] at mounted ⊢
      exact loading program mounted
    · rw [mount, if_neg named, Reply.failed_result] at mounted
      cases mounted
  · rw [configured.reset_eq]
    exact restarted_isNewWith seeded emulator.entropy configured.loadable

end

/-- Settings with a seed. -/
def seededConfig : Config :=
  { Config.standard with seed := some 7 }

/-- An emulator on which a program that draws random numbers is mounted. -/
def drawing : Emulator :=
  ((ofConfig seededConfig 1).mount programMount [0xC1, 0xFF, 0x12, 0x00, 0xAB, 0xCD]).state

/-- The same emulator after a frame and a host that overwrote registers and memory. -/
def worn : Emulator :=
  { drawing.stepFrame.state with
    machine :=
      { drawing.stepFrame.state.machine with
        memory := Memory.blank
        registers := Vector.replicate 16 0xAA } }

/-- A shorter program mounted on a worn emulator, and a reset of it. -/
theorem worn_restart_isNewWith :
    seededConfig.seed = some 7 ∧
      Relation.ReflTransGen Operates (ofConfig seededConfig 1) worn ∧
      worn.frames = 1 ∧
      worn.program = some [0xC1, 0xFF, 0x12, 0x00, 0xAB, 0xCD] ∧
      (worn.mount programMount [0x60, 0x42]).result = .ok () ∧
      (worn.mount programMount [0x60, 0x42]).state.IsNewWith seededConfig (some [0x60, 0x42]) ∧
      worn.reset.state.IsNewWith seededConfig (some [0xC1, 0xFF, 0x12, 0x00, 0xAB, 0xCD]) := by
  have same
      (machine : Machine)
      (memory : Memory)
      (registers : Vector UInt8 16) :
      Machine.semantics { machine with memory, registers } = machine.semantics :=
    rfl
  have mounted : Relation.ReflTransGen Operates (ofConfig seededConfig 1) drawing :=
    .single (.mount (ofConfig seededConfig 1) programMount _)
  have history : Relation.ReflTransGen Operates (ofConfig seededConfig 1) worn :=
    (mounted.tail (.stepFrame drawing)).tail
      (.write drawing.stepFrame.state _ (same drawing.stepFrame.state.machine _ _))
  obtain ⟨frames, program, accepted⟩ :
      worn.frames = 1 ∧
        worn.program = some [0xC1, 0xFF, 0x12, 0x00, 0xAB, 0xCD] ∧
        (worn.mount programMount [0x60, 0x42]).result = .ok () := by
    decide +kernel
  obtain ⟨mounting, -, resetting⟩ := restart_isNewWith (rfl : seededConfig.seed = some 7) history
  rw [program] at resetting
  exact ⟨rfl, history, frames, program, accepted, mounting programMount _ accepted, resetting⟩

end Emulator

end Chip8
