import Chip8.Proofs.Emulator.StandingFaults
import Chip8.Proofs.Machine.Footprint
import Chip8.Proofs.Machine.Inputs

namespace Chip8

/-!
# Waiting for a key

While every key is up, a step on `Fx0A` comes back to that word and notes it,
and does nothing else.  So a frame of such steps lets the timers run and
leaves the machine where it was, and so do any number of frames.  The first
step of the first frame with a key down takes the lowest such key and goes on.
-/

/-- The components that may change while a machine waits for a key. -/
def Component.whileWaiting : List Component :=
  .lastWord :: keysAndTimers

namespace Keypad

/-- The key is down and every key below it is up. -/
def IsLowestDown
    (keypad : Keypad)
    (key : Fin 16) :
    Prop :=
  keypad.down[key.val]? = some true ∧ ∀ lower < key, keypad.down[lower.val]? = some false

/-- The key that is found first is the lowest that is down. -/
theorem isLowestDown_of_firstDown?
    {keypad : Keypad}
    {key : Fin 16}
    (found : keypad.firstDown? = some key) :
    keypad.IsLowestDown key := by
  obtain ⟨down, position, inside, place, before⟩ := List.find?_eq_some_iff_getElem.mp found
  refine ⟨Vector.getElem?_eq_some_iff.mpr ⟨key.isLt, down⟩, ?_⟩
  intro lower below
  have earlier : lower.val < position := by
    rw [← place, List.getElem_finRange] at below
    exact below
  have up : keypad.down[lower.val] = false := by
    simpa using before lower.val earlier
  exact Vector.getElem?_eq_some_iff.mpr ⟨lower.isLt, up⟩

/-- On the released keypad every key is up. -/
theorem released_allUp :
    released.AllUp :=
  fun _ inside => Vector.getElem_replicate inside

end Keypad

namespace Machine

/-- The next word of a machine is `Fx0A`. -/
structure AwaitsKey
    (machine : Machine)
    (word : UInt16) :
    Prop where
  fetch :
    machine.memory.readWord machine.pc.toNat = .ok word
  wait :
    Word.IsKeyWait word

variable {machine other : Machine} {word : UInt16}

/-- A machine goes on waiting when only timers, keys and the last word change. -/
theorem AwaitsKey.of_agreesOutside
    (awaits : machine.AwaitsKey word)
    (agrees : other.AgreesOutside machine Component.whileWaiting) :
    other.AwaitsKey word where
  fetch := by
    have memory : other.memory = machine.memory :=
      agrees .memory (by decide)
    have pc : other.pc = machine.pc :=
      agrees .pc (by decide)
    rw [memory, pc]
    exact awaits.fetch
  wait :=
    awaits.wait

/-- A step on a word that waits for a key is the wait. -/
theorem AwaitsKey.step
    (awaits : machine.AwaitsKey word) :
    machine.step.result = .ok () ∧
      machine.step.state = ((machine.fetched word).awaitKey (Word.x word)).state := by
  have encoded : Instruction.Encodes word (.waitForKey (Word.x word)) :=
    ⟨awaits.wait.1, awaits.wait.2, rfl⟩
  exact step_of_runs awaits.fetch (Instruction.decode?_of_encodes encoded) rfl

/-- With every key up, a step notes the word and comes back to it. -/
theorem AwaitsKey.step_of_allUp
    (awaits : machine.AwaitsKey word)
    (released : machine.keypad.AllUp) :
    machine.step.result = .ok () ∧ machine.step.state = { machine with lastWord := word } := by
  obtain ⟨succeeded, state⟩ := awaits.step
  have noKey : machine.keypad.firstDown? = none :=
    Keypad.firstDown?_eq_none_iff.mpr released
  refine ⟨succeeded, ?_⟩
  simp [state, awaitKey, fetched, noKey]

/-- With a key down, a step puts the lowest into the register and goes on. -/
theorem AwaitsKey.step_of_down
    (awaits : machine.AwaitsKey word)
    {key : Fin 16}
    (found : machine.keypad.firstDown? = some key) :
    machine.step.result = .ok () ∧
      machine.step.state =
        (machine.fetched word).setRegister (Word.x word) (UInt8.ofNat key.val) := by
  obtain ⟨succeeded, state⟩ := awaits.step
  have first : (machine.fetched word).keypad.firstDown? = some key :=
    found
  refine ⟨succeeded, ?_⟩
  simp [state, awaitKey, first]

/-- With every key up, no number of steps stops or does more than note a word. -/
theorem AwaitsKey.afterSteps
    (awaits : machine.AwaitsKey word)
    (released : machine.keypad.AllUp)
    (cycles : Nat) :
    machine.firstStop? cycles = none ∧
      ∃ noted, machine.afterSteps cycles = { machine with lastWord := noted } := by
  induction cycles generalizing machine with
  | zero =>
      exact ⟨rfl, machine.lastWord, rfl⟩
  | succ cycles inductionHypothesis =>
      obtain ⟨succeeded, state⟩ := awaits.step_of_allUp released
      have awaitsAgain : machine.step.state.AwaitsKey word := by
        rw [state]
        exact ⟨awaits.fetch, awaits.wait⟩
      have releasedStill : machine.step.state.keypad.AllUp := by
        rw [state]
        exact released
      obtain ⟨runs, noted, reached⟩ := inductionHypothesis awaitsAgain releasedStill
      have unrolled : machine.afterSteps (cycles + 1) = machine.step.state.afterSteps cycles :=
        rfl
      refine ⟨?_, noted, ?_⟩
      · rw [firstStop?_succ, succeeded, runs]
        rfl
      · rw [unrolled, reached, state]

end Machine

namespace Emulator

/-- A mounted emulator whose frames take steps and whose next word is `Fx0A`. -/
structure AwaitsKey
    (emulator : Emulator)
    (word : UInt16) :
    Prop where
  mounted :
    emulator.program.isSome
  positive :
    0 < emulator.config.cyclesPerFrame.toNat
  machine :
    emulator.machine.AwaitsKey word

/-- A number of frames completed that let the timers run and did nothing else. -/
structure Waited
    (before : Emulator)
    (count : Nat)
    (after : Emulator) :
    Prop where
  frames :
    after.frames = before.frames + count
  delayTimer :
    after.machine.delayTimer.toNat =
      before.machine.delayTimer.toNat - count * before.config.timerTicksPerFrame.toNat
  soundTimer :
    after.machine.soundTimer.toNat =
      before.machine.soundTimer.toNat - count * before.config.timerTicksPerFrame.toNat
  /-- Among what stays is `pc`. -/
  machine :
    after.machine.AgreesOutside before.machine Component.whileWaiting
  config :
    after.config = before.config
  program :
    after.program = before.program

/-- The first step of a frame with given keys takes the lowest key that is down and goes on. -/
structure TakesKey
    (emulator : Emulator)
    (keypad : Keypad)
    (x : Register) :
    Prop where
  succeeds :
    (emulator.withKeys keypad).machine.step.result = .ok ()
  taken :
    ∃ key,
      keypad.IsLowestDown key ∧
        ((emulator.withKeys keypad).machine.step.state.register x).toNat = key.val
  others :
    ∀ register,
      register ≠ x →
      (emulator.withKeys keypad).machine.step.state.register register =
        emulator.machine.register register
  pc :
    (emulator.withKeys keypad).machine.step.state.pc.toNat = emulator.machine.pc.toNat + 2
  /-- The frame takes the rest of its steps from there. -/
  frame :
    let cycles := emulator.config.cyclesPerFrame.toNat
    let whole := (emulator.withKeys keypad).machine.run cycles
    let rest := (emulator.withKeys keypad).machine.step.state.run (cycles - 1)
    whole.result = rest.result ∧ whole.state = rest.state

variable {emulator middle after : Emulator} {word : UInt16} {first second : Nat}

/-- No time at all leaves everything as it is. -/
theorem Waited.refl
    (emulator : Emulator) :
    emulator.Waited 0 emulator where
  frames :=
    rfl
  delayTimer := by
    simp
  soundTimer := by
    simp
  machine :=
    .refl _ _
  config :=
    rfl
  program :=
    rfl

/-- Frames waited before and after add up. -/
theorem Waited.trans
    (earlier : emulator.Waited first middle)
    (later : middle.Waited second after) :
    emulator.Waited (first + second) after where
  frames := by
    rw [later.frames, earlier.frames, Nat.add_assoc]
  delayTimer := by
    rw [later.delayTimer, earlier.delayTimer, earlier.config, Nat.sub_sub, Nat.add_mul]
  soundTimer := by
    rw [later.soundTimer, earlier.soundTimer, earlier.config, Nat.sub_sub, Nat.add_mul]
  machine :=
    later.machine.trans earlier.machine
  config :=
    later.config.trans earlier.config
  program :=
    later.program.trans earlier.program

/-- An emulator that waited is still waiting for a key. -/
theorem AwaitsKey.of_waited
    (awaits : emulator.AwaitsKey word)
    (waited : emulator.Waited first after) :
    after.AwaitsKey word where
  mounted := by
    rw [waited.program]
    exact awaits.mounted
  positive := by
    rw [waited.config]
    exact awaits.positive
  machine :=
    awaits.machine.of_agreesOutside waited.machine

/-- Setting keys leaves the next word. -/
theorem AwaitsKey.machine_withKeys
    (awaits : emulator.AwaitsKey word)
    (keypad : Keypad) :
    (emulator.withKeys keypad).machine.AwaitsKey word :=
  ⟨awaits.machine.fetch, awaits.machine.wait⟩

/-- A frame with every key up is one frame waited. -/
theorem AwaitsKey.emulateFrame
    (awaits : emulator.AwaitsKey word)
    {keypad : Keypad}
    (released : keypad.AllUp) :
    (emulator.withKeys keypad).emulateFrame.result = .ok () ∧
      emulator.Waited 1 (emulator.withKeys keypad).emulateFrame.state := by
  obtain ⟨runs, noted, reached⟩ :=
    (awaits.machine_withKeys keypad).afterSteps released emulator.config.cyclesPerFrame.toNat
  obtain ⟨succeeded, state⟩ :=
    (emulator.withKeys keypad).emulateFrame_of_noStop awaits.mounted runs
  refine ⟨succeeded, ?_⟩
  rw [state]
  simp only [withKeys] at reached ⊢
  rw [reached, Machine.afterTicks_eq_elapse]
  exact
    { frames := rfl
      delayTimer := by
        rw [Nat.one_mul]
        exact Machine.timer_toNat _ _
      soundTimer := by
        rw [Nat.one_mul]
        exact Machine.timer_toNat _ _
      machine := by
        intro component seen
        cases component with
        | lastWord | keypad | delayTimer | soundTimer => exact (seen (by decide)).elim
        | _ => rfl
      config := rfl
      program := rfl }

/-- A call of the driver with every key up completes a frame that was waited. -/
theorem AwaitsKey.call?_eq
    (awaits : emulator.AwaitsKey word)
    {host : ScriptedHost}
    {keypad : Keypad}
    {rest : List Keypad}
    (scripted : host.script = keypad :: rest)
    (released : keypad.AllUp) :
    ∃ after,
      call? (emulator, host) =
          some (.ok true, after,
            { script := rest, taken := emulator.machine.screen.toFrame :: host.taken }) ∧
        emulator.Waited 1 after := by
  obtain ⟨succeeded, waited⟩ := awaits.emulateFrame released
  have screen :
      (emulator.withKeys keypad).emulateFrame.state.machine.screen = emulator.machine.screen :=
    waited.machine .screen (by decide)
  refine ⟨_, ?_, waited⟩
  rw [← screen]
  simp only [withKeys] at succeeded ⊢
  simp [call?, runFrame, Host.poll, Host.present, scripted, succeeded]

/-- Calls of the driver with every key up complete as many frames that were waited. -/
theorem AwaitsKey.answers?_eq
    (awaits : emulator.AwaitsKey word)
    {host : ScriptedHost}
    {waiting later : List Keypad}
    (scripted : host.script = waiting ++ later)
    (released : ∀ keypad ∈ waiting, keypad.AllUp) :
    ∃ after,
      answers? call? waiting.length (emulator, host) =
          some (List.replicate waiting.length (.ok true), after,
            { script := later
              taken :=
                List.replicate waiting.length emulator.machine.screen.toFrame ++ host.taken }) ∧
        emulator.Waited waiting.length after := by
  induction waiting generalizing emulator host with
  | nil =>
      obtain ⟨script, taken⟩ := host
      obtain rfl : script = later := scripted
      exact ⟨emulator, rfl, .refl emulator⟩
  | cons keypad waiting inductionHypothesis =>
      let picture := emulator.machine.screen.toFrame
      let next : ScriptedHost :=
        { script := waiting ++ later, taken := picture :: host.taken }
      have scriptedNow : host.script = keypad :: next.script :=
        scripted
      have scriptedNext : next.script = waiting ++ later :=
        rfl
      obtain ⟨middle, called, waited⟩ :=
        awaits.call?_eq scriptedNow (released keypad List.mem_cons_self)
      have screen : middle.machine.screen = emulator.machine.screen :=
        waited.machine .screen (by decide)
      obtain ⟨after, answered, waitedLater⟩ :=
        inductionHypothesis (awaits.of_waited waited) scriptedNext
          fun keypad member => released keypad (List.mem_cons_of_mem _ member)
      -- Every frame presents the screen that was there from the start.
      have pictures :
          List.replicate waiting.length middle.machine.screen.toFrame ++ next.taken =
            List.replicate (waiting.length + 1) picture ++ host.taken := by
        rw [screen, List.replicate_succ', List.append_assoc]
        rfl
      rw [pictures] at answered
      refine ⟨after, ?_, ?_⟩
      · rw [List.length_cons, answers?, called, Option.bind_some]
        exact congrArg (Option.map _) answered
      · rw [List.length_cons, Nat.add_comm]
        exact waited.trans waitedLater

/-- An emulator that waits takes the first key that it is given. -/
theorem AwaitsKey.takesKey
    (awaits : emulator.AwaitsKey word)
    {keypad : Keypad}
    (pressed : ¬keypad.AllUp) :
    emulator.TakesKey keypad (Word.x word) := by
  obtain ⟨key, found⟩ : ∃ key, keypad.firstDown? = some key :=
    Option.ne_none_iff_exists'.mp (mt Keypad.firstDown?_eq_none_iff.mp pressed)
  obtain ⟨succeeded, state⟩ := (awaits.machine_withKeys keypad).step_of_down found
  obtain ⟨cycles, counted⟩ := Nat.exists_eq_add_one_of_ne_zero (Nat.ne_of_gt awaits.positive)
  exact
    { succeeds := succeeded
      taken := by
        refine ⟨key, Keypad.isLowestDown_of_firstDown? found, ?_⟩
        rw [state, Machine.register_setRegister, if_pos rfl]
        exact UInt8.toNat_ofNat_of_lt' (Nat.lt_trans key.isLt (by decide))
      others := by
        intro register other
        rw [state, Machine.register_setRegister, if_neg other]
        rfl
      pc := by
        rw [state]
        exact Machine.fetched_pc_toNat awaits.machine.fetch
      frame := by
        rw [counted]
        exact Machine.run_of_succeeded succeeded cycles }

/--
An emulator that waits for a key does nothing in any number of frames with
every key up but let its timers run.  The next frame with a key down begins
with a step that takes the lowest such key.
-/
theorem waits_for_key
    (awaits : emulator.AwaitsKey word)
    (host : ScriptedHost)
    {waiting later : List Keypad}
    (scripted : host.script = waiting ++ later)
    (released : ∀ keypad ∈ waiting, keypad.AllUp) :
    ∃ after,
      answers? call? waiting.length (emulator, host) =
          some (List.replicate waiting.length (.ok true), after,
            { script := later
              taken :=
                List.replicate waiting.length emulator.machine.screen.toFrame ++ host.taken }) ∧
        emulator.Waited waiting.length after ∧
        ∀ keypad rest,
          later = keypad :: rest →
          ¬keypad.AllUp →
          after.TakesKey keypad (Word.x word) := by
  obtain ⟨after, answered, waited⟩ := awaits.answers?_eq scripted released
  exact ⟨after, answered, waited, fun _ _ _ => (awaits.of_waited waited).takesKey⟩

/-- An emulator that waits for a key in `V3` with both timers running. -/
def waitingWithTimers : Emulator :=
  let mounted := ((ofConfig Config.standard 0).loadProgram [0xF3, 0x0A]).state
  { mounted with machine := { mounted.machine with delayTimer := 5, soundTimer := 1 } }

/-- Two frames pass with no key down, and the lower of two keys is taken in the third. -/
theorem waitingWithTimers_takesKey :
    let pressed := Keypad.holding [0xC, 0x5]
    let host := ScriptedHost.ofScript [Keypad.released, Keypad.released, pressed]
    ∃ after rest,
      answers? call? 2 (waitingWithTimers, host) = some ([.ok true, .ok true], after, rest) ∧
        after.machine.pc = 0x200 ∧
        after.machine.delayTimer.toNat = 3 ∧
        after.machine.soundTimer.toNat = 0 ∧
        ((after.withKeys pressed).machine.step.state.register 3).toNat = 5 ∧
        (after.withKeys pressed).machine.step.state.pc.toNat = 0x202 := by
  intro pressed host
  let machine := waitingWithTimers.machine
  have start :
      waitingWithTimers.program.isSome ∧
        0 < waitingWithTimers.config.cyclesPerFrame.toNat ∧
        machine.memory.readWord machine.pc.toNat = .ok 0xF30A ∧
        machine.pc = 0x200 := by
    decide +kernel
  have keys :
      pressed.down[5] = true ∧
        ∀ key : Fin 16, pressed.IsLowestDown key → key = 5 := by
    unfold Keypad.IsLowestDown
    decide +kernel
  obtain ⟨mounted, positive, fetch, pc⟩ := start
  obtain ⟨down, lowest⟩ := keys
  have released : ∀ keypad ∈ [Keypad.released, Keypad.released], keypad.AllUp := by
    intro keypad member key inside
    obtain rfl : keypad = Keypad.released := by
      simpa using member
    exact Keypad.released_allUp key inside
  have someKey : ¬pressed.AllUp := by
    intro allUp
    exact absurd (allUp 5 (by decide)) (by simp [down])
  have scripted : host.script = [Keypad.released, Keypad.released] ++ [pressed] :=
    rfl
  obtain ⟨after, answered, waited, takes⟩ :=
    waits_for_key ⟨mounted, positive, fetch, rfl, rfl⟩ host scripted released
  have taken := takes pressed [] rfl someKey
  have kept : after.machine.pc = 0x200 :=
    (waited.machine .pc (by decide)).trans pc
  obtain ⟨key, isLowest, register⟩ := taken.taken
  refine ⟨after, _, answered, kept, ?_, ?_, ?_, ?_⟩
  · exact waited.delayTimer
  · exact waited.soundTimer
  · rw [lowest key isLowest] at register
    exact register
  · rw [taken.pc, kept]
    rfl

end Emulator

end Chip8
