import Chip8.Proofs.Emulator.Mounting
import Chip8.Proofs.Machine.RandomDraws

namespace Chip8

/-!
# Random draws of an emulator

A restart starts the random stream from the seed in the settings.  Until the
next one, every draw of every frame gets the next word of that stream, and
frames that fault, refused images, an unmount and whatever a host does to the
machine leave the stream where it is.
-/

namespace Machine

/-- Steps after one that faults leave the machine as it was. -/
theorem performAll?_of_fault
    {machine : Machine}
    {cause : Fault}
    (faults : machine.step.result = .error (.fault cause))
    (cycles : Nat) :
    machine.performAll? (List.replicate cycles .step) = some machine := by
  induction cycles with
  | zero =>
      rfl
  | succ cycles inductionHypothesis =>
      have kept : machine.perform? .step = some machine := by
        simp [perform?, faults, (step_of_stop (step_result_eq_error_iff.mp faults)).2]
      rw [List.replicate_succ, performAll?, kept, Option.bind_some, inductionHypothesis]

/-- A loop that does not crash leaves the machine that as many single steps leave. -/
theorem performAll?_of_run
    {machine : Machine}
    {announced : Array Event}
    {cycles : Nat}
    (survives : (runAnnouncing announced cycles machine).result ≠ .error .crash) :
    machine.performAll? (List.replicate cycles .step) =
      some (runAnnouncing announced cycles machine).state := by
  induction cycles generalizing machine announced with
  | zero =>
      rfl
  | succ cycles inductionHypothesis =>
      rw [runAnnouncing] at survives ⊢
      cases ends : machine.step.result with
      | ok =>
          simp only [ends] at survives ⊢
          have performed : machine.perform? .step = some machine.step.state := by
            simp [perform?, ends]
          rw [List.replicate_succ, performAll?, performed, Option.bind_some,
            inductionHypothesis survives]
      | error stop =>
          simp only [ends] at survives ⊢
          cases stop with
          | crash =>
              exact (survives rfl).elim
          | fault cause =>
              rw [(step_of_stop (step_result_eq_error_iff.mp ends)).2]
              exact performAll?_of_fault ends (cycles + 1)

end Machine

/-- The use starts the random stream anew. -/
inductive Use.Restarts : Use → Prop where
  | reset :
      Restarts .reset
  | load {program : List UInt8} (accepted : Memory.checkProgram program = .ok ()) :
      Restarts (.load program)
  | mount {program : List UInt8} (accepted : Memory.checkProgram program = .ok ()) :
      Restarts (.mount programMount program)
  | reseed (random : RandomStream) :
      Restarts (.act (.reseed random))

namespace Emulator

/-- The steps that a frame may take: as many as the settings say, and none without an image. -/
def frameSteps (emulator : Emulator) : List Machine.Action :=
  if emulator.program.isNone then
    []
  else
    List.replicate emulator.config.cyclesPerFrame.toNat .step

/-- The random draws that a use makes. -/
def drawsOf
    (emulator : Emulator) :
    Use → List RandomDraw
  | .stepFrame => emulator.machine.randomDraws emulator.frameSteps
  | @Use.runFrame _ _ host =>
      match (Host.poll host).1 with
      | some keypad => (emulator.withKeys keypad).machine.randomDraws emulator.frameSteps
      | none => []
  | .act action => emulator.machine.randomDraws [action]
  | .mount _ _
  | .load _
  | .unmount _
  | .reset => []

/-- The random draws that a sequence of uses makes, in order. -/
def randomDraws
    (emulator : Emulator)
    (uses : List Use) :
    List RandomDraw :=
  emulator.recorded drawsOf uses

/-- The emulator was just restarted, or is new, with a seed in its settings. -/
inductive JustSeeded (seed : UInt64) : Emulator → Prop where
  | ofConfig {config : Config} (seeded : config.seed = some seed) (entropy : UInt64) :
      JustSeeded seed (ofConfig config entropy)
  | reset {emulator : Emulator} (seeded : emulator.config.seed = some seed) :
      JustSeeded seed emulator.reset.state
  | load {emulator : Emulator} {program : List UInt8}
      (seeded : emulator.config.seed = some seed)
      (accepted : (emulator.loadProgram program).result = .ok ()) :
      JustSeeded seed (emulator.loadProgram program).state
  | mount {emulator : Emulator} {place : String} {program : List UInt8}
      (seeded : emulator.config.seed = some seed)
      (accepted : (emulator.mount place program).result = .ok ()) :
      JustSeeded seed (emulator.mount place program).state

variable {emulator next final : Emulator} {seed : UInt64}

/-- Copying the mounted image into a machine draws no number. -/
theorem reload_random
    (machine : Machine)
    (program? : Option (List UInt8)) :
    (reload machine program?).state.random = machine.random := by
  cases program? with
  | none => rfl
  | some program =>
      simp only [reload]
      split <;> exact machine.loadProgram_random program

/-- A reset under a fixed seed starts the numbers again from that seed. -/
theorem reset_random
    (seeded : emulator.config.seed = some seed) :
    emulator.reset.state.machine.random = RandomStream.ofSeed seed := by
  have fromSeed : emulator.config.seedOr emulator.entropy = seed := by
    simp [Config.seedOr, seeded]
  rw [reset_state, reload_random, fromSeed, Machine.powerOn]

/-- Every restart with a seed in the settings starts the stream of that seed. -/
theorem JustSeeded.random
    (restarted : emulator.JustSeeded seed) :
    emulator.machine.random = RandomStream.ofSeed seed := by
  have load
      {emulator : Emulator}
      {program : List UInt8}
      (seeded : emulator.config.seed = some seed)
      (accepted : (emulator.loadProgram program).result = .ok ()) :
      (emulator.loadProgram program).state.machine.random = RandomStream.ofSeed seed := by
    rcases emulator.loadProgram_cases program with ⟨-, -, state⟩ | ⟨_, -, refused, -⟩
    · rw [state]
      exact reset_random seeded
    · rw [refused] at accepted
      cases accepted
  cases restarted with
  | ofConfig seeded entropy =>
      simp [Emulator.ofConfig, Machine.powerOn, Config.seedOr, seeded]
  | reset seeded => exact reset_random seeded
  | load seeded accepted => exact load seeded accepted
  | @mount emulator place program seeded accepted =>
      rcases emulator.mount_cases place program with ⟨-, mounts⟩ | ⟨-, mounts⟩
      · rw [mounts] at accepted ⊢
        exact load seeded accepted
      · rw [mounts] at accepted
        cases accepted

/-- A frame of a mounted image crashes with its steps, and its ticks leave the stream. -/
theorem emulateFrame_random
    (mounted : emulator.program.isNone = false) :
    (emulator.emulateFrame.result = .error .crash ↔
        (emulator.machine.run emulator.config.cyclesPerFrame.toNat).result = .error .crash) ∧
      emulator.emulateFrame.state.machine.random =
        (emulator.machine.run emulator.config.cyclesPerFrame.toNat).state.random := by
  unfold emulateFrame
  simp only [mounted, Bool.false_eq_true, if_false]
  cases ends : (emulator.machine.run emulator.config.cyclesPerFrame.toNat).result with
  | ok => simp [Machine.elapse]
  | error stop => cases stop <;> simp

/-- A frame that does not crash deals what its steps draw. -/
theorem emulateFrame_deals
    (emulator : Emulator)
    (survives : emulator.emulateFrame.result ≠ .error .crash) :
    emulator.machine.random.Deals (emulator.machine.randomDraws emulator.frameSteps)
      emulator.emulateFrame.state.machine.random := by
  unfold frameSteps
  cases mounted : emulator.program.isNone with
  | true =>
      rw [if_pos rfl]
      simp only [emulateFrame, mounted, if_true]
      exact .nil _
  | false =>
      obtain ⟨crashes, random⟩ := emulateFrame_random mounted
      rw [if_neg (by decide), random]
      refine Machine.performAll?_deals
        (Machine.performAll?_of_run fun crash => survives (crashes.mpr crash)) ?_
      intro _ member
      cases List.eq_of_mem_replicate member

/-- An image that is refused leaves the stream. -/
theorem loadProgram_random_of_refused
    {program : List UInt8}
    (refused : ¬Memory.checkProgram program = .ok ()) :
    (emulator.loadProgram program).state.machine.random = emulator.machine.random := by
  rcases emulator.loadProgram_cases program with ⟨accepted, -⟩ | ⟨_, -, -, state⟩
  · exact (refused accepted).elim
  · rw [state]

/-- A use that does not restart the emulator deals what it draws. -/
theorem use?_deals
    {use : Use}
    (used : emulator.use? use = some next)
    (kept : ¬use.Restarts) :
    emulator.machine.random.Deals (emulator.drawsOf use) next.machine.random := by
  -- A use that is refused leaves the stream; frames and actions deal what their steps draw.
  cases use with
  | mount place program =>
      obtain rfl : (emulator.mount place program).state = next := Option.some.inj used
      rcases emulator.mount_cases place program with ⟨rfl, mounts⟩ | ⟨-, mounts⟩
      · rw [mounts, loadProgram_random_of_refused fun accepted => kept (.mount accepted)]
        exact .nil _
      · rw [mounts]
        exact .nil _
  | load program =>
      obtain rfl : (emulator.loadProgram program).state = next := Option.some.inj used
      rw [loadProgram_random_of_refused fun accepted => kept (.load accepted)]
      exact .nil _
  | unmount place =>
      obtain rfl : (emulator.unmount place).state = next := Option.some.inj used
      have unchanged : (emulator.unmount place).state.machine.random = emulator.machine.random := by
        rcases emulator.unmount_cases place with ⟨-, unmounts⟩ | ⟨-, unmounts⟩ <;>
          simp only [unmounts, Reply.done_state, Reply.failed_state]
      rw [unchanged]
      exact .nil _
  | reset =>
      exact (kept .reset).elim
  | stepFrame =>
      obtain ⟨survives, rfl⟩ := Reply.survivor?_eq_some_iff.mp used
      refine emulator.emulateFrame_deals fun crash => survives ?_
      rw [stepFrame, crash]
      rfl
  | runFrame host =>
      obtain ⟨_, survived, rfl⟩ := Option.map_eq_some_iff.mp used
      obtain ⟨survives, rfl⟩ := Reply.survivor?_eq_some_iff.mp survived
      rw [drawsOf]
      rcases poll_cases host with ⟨rest, polled⟩ | ⟨keypad, rest, polled⟩
      · rw [polled, (runFrame_of_noKeys polled).2]
        exact .nil _
      · obtain ⟨result, state, -⟩ := emulator.runFrame_of_keys polled
        rw [polled, state]
        refine (emulator.withKeys keypad).emulateFrame_deals fun crash => survives ?_
        rw [result, crash]
        rfl
  | act action =>
      obtain ⟨machine, performed, rfl⟩ := Option.map_eq_some_iff.mp used
      refine Machine.performAll?_deals ?_ ?_
      · rw [Machine.performAll?, performed]
        rfl
      · intro random member
        obtain rfl := List.mem_singleton.mp member
        exact kept (.reseed random)

/-- Uses that restart nothing draw the numbers of the stream in its order. -/
theorem useAll?_deals
    {uses : List Use}
    (used : emulator.useAll? uses = some final)
    (kept : ∀ use ∈ uses, ¬use.Restarts) :
    emulator.machine.random.Deals (emulator.randomDraws uses) final.machine.random := by
  induction uses generalizing emulator with
  | nil =>
      cases used
      exact .nil _
  | cons use rest inductionHypothesis =>
      obtain ⟨next, first, remaining⟩ := Option.bind_eq_some_iff.mp used
      have onRecord :
          emulator.randomDraws (use :: rest) = emulator.drawsOf use ++ next.randomDraws rest :=
        recorded_cons first rest
      rw [onRecord]
      exact (use?_deals first (kept use List.mem_cons_self)).append
        (inductionHypothesis remaining fun later member => kept later (List.mem_cons_of_mem _ member))

/--
From the moment a stream is started from a seed, the draws of a machine, and
those of an emulator, get its words from the first one on, and nothing else
moves the stream until it is started anew.
-/
theorem draws_follow_seed
    (seed : UInt64) :
    (∀ (machine : Machine) actions final,
      machine.JustSeeded seed →
      (∀ random, .reseed random ∉ actions) →
      machine.performAll? actions = some final →
      (RandomStream.ofSeed seed).Deals (machine.randomDraws actions) final.random) ∧
    (∀ (emulator : Emulator) uses final,
      emulator.JustSeeded seed →
      (∀ use ∈ uses, ¬use.Restarts) →
      emulator.useAll? uses = some final →
      (RandomStream.ofSeed seed).Deals (emulator.randomDraws uses) final.machine.random) := by
  constructor
  · intro machine actions final seeded kept performed
    rw [← seeded.random]
    exact Machine.performAll?_deals performed kept
  · intro emulator uses final seeded kept used
    rw [← seeded.random]
    exact useAll?_deals used kept

/-- An emulator whose frames draw, jump back and draw again. -/
def drawingTwice : Emulator :=
  ((ofConfig { seededConfig with cyclesPerFrame := 3 } 1).mount "Program"
    [0xC1, 0xFF, 0x12, 0x00]).state

/-- A frame, a refused image, and a host that resets and reloads the machine between two steps. -/
def drawingOn : List Use :=
  [.runFrame (ScriptedHost.idle 1), .load [], .act .reset, .act (.load [0xC2, 0x00]), .act .step,
    .unmount "Program", .act .reset, .act (.load [0xC3, 0x0F, 0x00, 0xEE]), .act .step, .act .step]

/-- The actions of such a host on a machine of its own. -/
def drawingByHand : List Machine.Action :=
  [.load [0xC2, 0x00, 0x00, 0xEE], .step, .step, .tick, .reset, .load [0xC3, 0x0F], .step]

/-- Frames and single steps draw the words of the seed in order, whatever is loaded in between. -/
theorem drawingTwice_followsSeed :
    drawingTwice.JustSeeded 7 ∧
      (∀ use ∈ drawingOn, ¬use.Restarts) ∧
      (drawingTwice.randomDraws drawingOn).map RandomDraw.word =
        [0xC1FF, 0xC1FF, 0xC200, 0xC30F] ∧
      (∃ final,
        drawingTwice.useAll? drawingOn = some final ∧
          (RandomStream.ofSeed 7).Deals (drawingTwice.randomDraws drawingOn)
            final.machine.random) ∧
      ∃ final,
        (Machine.powerOn .corrected (RandomStream.ofSeed 7)).performAll? drawingByHand =
            some final ∧
          (RandomStream.ofSeed 7).Deals
            ((Machine.powerOn .corrected (RandomStream.ofSeed 7)).randomDraws drawingByHand)
            final.random := by
  have seeded : drawingTwice.JustSeeded 7 := by
    refine .mount rfl ?_
    decide +kernel
  have kept : ∀ use ∈ drawingOn, ¬use.Restarts := by
    intro use member restarts
    cases restarts with
    | load accepted =>
        obtain rfl : _ = [] := by
          simpa [drawingOn] using member
        cases accepted
    | reset | mount | reseed =>
        simp [drawingOn] at member
  have keptByHand
      (random : RandomStream) :
      .reseed random ∉ drawingByHand := by
    simp [drawingByHand]
  obtain ⟨words, survives⟩ :
      (drawingTwice.randomDraws drawingOn).map RandomDraw.word =
          [0xC1FF, 0xC1FF, 0xC200, 0xC30F] ∧
        (drawingTwice.useAll? drawingOn).isSome := by
    decide +kernel
  obtain ⟨final, used⟩ := Option.isSome_iff_exists.mp survives
  obtain ⟨machine, performed⟩ :
      ∃ final,
        (Machine.powerOn .corrected (RandomStream.ofSeed 7)).performAll? drawingByHand =
          some final :=
    Option.isSome_iff_exists.mp (by decide +kernel)
  obtain ⟨byHand, onEmulator⟩ := draws_follow_seed 7
  exact ⟨seeded, kept, words, ⟨final, used, onEmulator _ _ _ seeded kept used⟩,
    machine, performed, byHand _ _ _ (.powerOn .corrected) keptByHand performed⟩

end Emulator

end Chip8
