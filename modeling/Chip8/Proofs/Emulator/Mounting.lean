import Chip8.Proofs.Emulator.Uses

namespace Chip8

/-!
# Mounting

The image that an emulator keeps, the copy of it in memory and the machine that
runs it are written at different moments.  Still the image follows a simple
rule: it is the one that was accepted last, unless it was released since.  What
is accepted depends on the length of the image only, so the image that is kept
can be copied to memory again at every reset.
-/

namespace Memory

/-- An image passes the check exactly when it is not empty and fits the program region. -/
theorem checkProgram_eq_ok_iff
    {program : List UInt8} :
    checkProgram program = .ok () ↔ 1 ≤ program.length ∧ program.length ≤ 3584 := by
  have capacity : programCapacity = 3584 :=
    rfl
  unfold checkProgram
  rw [capacity]
  split
  next empty =>
    have nothing : program.length = 0 :=
      List.isEmpty_iff_length_eq_zero.mp empty
    exact iff_of_false nofun (by omega)
  next something =>
    have positive : program.length ≠ 0 :=
      fun nothing => something (List.isEmpty_iff_length_eq_zero.mpr nothing)
    split
    next large =>
      exact iff_of_false nofun (by omega)
    next =>
      exact iff_of_true rfl (by omega)

/-- Clearing zeroes the program region and nothing else. -/
theorem clearProgram_getElem?
    (memory : Memory)
    (address : Nat) :
    memory.clearProgram.bytes[address]? =
      if 0x200 ≤ address ∧ address < 0x1000 then some 0 else memory.bytes[address]? := by
  have region :
      (programStart ≤ address ∧ address < programStart + programCapacity ∧
          address < memorySize) ↔
        (0x200 ≤ address ∧ address < 0x1000) := by
    unfold programCapacity programStart memorySize
    omega
  unfold clearProgram
  rw [fill_getElem?, List.length_replicate]
  simp only [region]
  split
  next inside =>
    have position : address - programStart < programCapacity := by
      unfold programCapacity programStart memorySize
      omega
    rw [List.getElem?_replicate, if_pos position]
  next => rfl

end Memory

namespace Machine

/-- Loading an image does not announce that a reload has failed. -/
theorem loadProgram_events
    (machine : Machine)
    (program : List UInt8)
    (error : LoadError) :
    .reloadFailed error ∉ (machine.loadProgram program).events := by
  unfold loadProgram
  split <;> simp [Reply.done, Reply.announcing, Reply.failed]

end Machine

/-- A change of the image that an emulator keeps. -/
inductive Change where
  | accepted (program : List UInt8)
  | released
  deriving Repr, DecidableEq

namespace Change

/-- The image that is kept after a change. -/
def image? : Change → Option (List UInt8)
  | .accepted program => some program
  | .released => none

/-- The change, if the operation that makes it succeeds. -/
def after?
    (change : Change) :
    Except EmulationError Unit → Option Change
  | .ok () => some change
  | .error _ => none

/-- A change mounts an image exactly when it accepts that image. -/
@[simp] theorem image?_eq_some_iff
    {change : Change}
    {program : List UInt8} :
    change.image? = some program ↔ change = .accepted program := by
  cases change <;> simp [image?]

end Change

namespace Emulator

/-- The change that a use makes, if it is a mount, a load or an unmount that succeeds. -/
def change?
    (emulator : Emulator) :
    Use → Option Change
  | .mount place program => (Change.accepted program).after? (emulator.mount place program).result
  | .load program => (Change.accepted program).after? (emulator.loadProgram program).result
  | .unmount place => Change.released.after? (emulator.unmount place).result
  | .reset
  | .stepFrame
  | @Use.runFrame _ _ _
  | .act _ => none

/-- The changes that a sequence of uses makes, in order. -/
def changes
    (emulator : Emulator)
    (uses : List Use) :
    List Change :=
  emulator.recorded (fun current use => (current.change? use).toList) uses

/-- The mounted image is the one accepted last, unless it was released later. -/
structure MountedBy
    (emulator : Emulator)
    (changes : List Change) :
    Prop where
  isMounted :
    emulator.isMounted "Program" = true ↔
      ∃ earlier program later,
        changes = earlier ++ .accepted program :: later ∧ .released ∉ later
  kept :
    ∀ program,
      emulator.program = some program ↔ ∃ earlier, changes = earlier ++ [.accepted program]

/-- What each operation on the mounted image accepts, and what it changes. -/
structure MountingRules (emulator : Emulator) : Prop where
  load_accepts :
    ∀ program,
      (emulator.loadProgram program).result = .ok () ↔
        1 ≤ program.length ∧ program.length ≤ 3584
  mount_accepts :
    ∀ place program,
      (emulator.mount place program).result = .ok () ↔
        place = "Program" ∧ 1 ≤ program.length ∧ program.length ≤ 3584
  load_refuses :
    ∀ program,
      (emulator.loadProgram program).result ≠ .ok () →
      (emulator.loadProgram program).state = emulator
  mount_refuses :
    ∀ place program,
      (emulator.mount place program).result ≠ .ok () →
      (emulator.mount place program).state = emulator
  unmount_accepts :
    ∀ place, (emulator.unmount place).result = .ok () ↔ place = "Program"
  unmount_refuses :
    ∀ place,
      (emulator.unmount place).result ≠ .ok () →
      (emulator.unmount place).state = emulator
  /-- Nothing but the mounted image and the program region of memory changes. -/
  unmount_clears :
    ∀ place,
      (emulator.unmount place).result = .ok () →
      ∃ memory : Memory,
        (emulator.unmount place).state =
            { emulator with machine := { emulator.machine with memory }, program := none } ∧
          ∀ address,
            memory.bytes[address]? =
              if 0x200 ≤ address ∧ address < 0x1000 then
                some 0
              else
                emulator.machine.memory.bytes[address]?
  stepFrame_unmounted :
    emulator.program = none →
    emulator.stepFrame.result = .error (.error .noProgram) ∧ emulator.stepFrame.state = emulator

/-- Whatever restarts the machine copies the kept image to memory without failing. -/
structure Reloads (emulator : Emulator) : Prop where
  copied :
    ∀ program,
      emulator.program = some program →
      emulator.reset.state.machine.memory = Memory.powerOn.fill programStart program
  reset :
    ∀ error, .reloadFailed error ∉ emulator.reset.events
  load :
    ∀ program error, .reloadFailed error ∉ (emulator.loadProgram program).events
  mount :
    ∀ place program error, .reloadFailed error ∉ (emulator.mount place program).events

variable {emulator next final : Emulator}

/-- A frame leaves the mounted image as it is. -/
theorem emulateFrame_program
    (emulator : Emulator) :
    emulator.emulateFrame.state.program = emulator.program := by
  obtain ⟨machine, frames, -, state⟩ := emulator.emulateFrame_state
  rw [state]

/-- An image of an acceptable length is mounted; another one changes nothing. -/
theorem load_cases
    (emulator : Emulator)
    (program : List UInt8) :
    ((1 ≤ program.length ∧ program.length ≤ 3584) ∧
        (emulator.loadProgram program).result = .ok () ∧
        (emulator.loadProgram program).state.program = some program) ∨
      (¬(1 ≤ program.length ∧ program.length ≤ 3584) ∧
        (∃ error, (emulator.loadProgram program).result = .error error) ∧
        (emulator.loadProgram program).state = emulator) := by
  rw [← Memory.checkProgram_eq_ok_iff]
  rcases emulator.loadProgram_cases program with
    ⟨checked, result, state⟩ | ⟨error, rejected, result, state⟩
  · refine .inl ⟨checked, result, ?_⟩
    rw [state, reset_state]
  · refine .inr ⟨?_, ⟨_, result⟩, state⟩
    rw [rejected]
    exact nofun

/-- An image is mounted at the place of programs as it is loaded, and nowhere else. -/
theorem mount_cases
    (emulator : Emulator)
    (place : String)
    (program : List UInt8) :
    (place = "Program" ∧ emulator.mount place program = emulator.loadProgram program) ∨
      (place ≠ "Program" ∧
        emulator.mount place program = Reply.failed emulator (.invalidMountPoint place)) := by
  by_cases named : place = "Program"
  · exact .inl ⟨named, if_pos named⟩
  · exact .inr ⟨named, if_neg named⟩

/-- The image is taken from the place of programs, and from nowhere else. -/
theorem unmount_cases
    (emulator : Emulator)
    (place : String) :
    (place = "Program" ∧
        emulator.unmount place =
          Reply.done
            { emulator with
              machine := { emulator.machine with memory := emulator.machine.memory.clearProgram }
              program := none }) ∨
      (place ≠ "Program" ∧
        emulator.unmount place = Reply.failed emulator (.invalidMountPoint place)) := by
  by_cases named : place = "Program"
  · exact .inl ⟨named, if_pos named⟩
  · exact .inr ⟨named, if_neg named⟩

/-- Loading an image keeps it if it is accepted, and else the image from before. -/
theorem loadProgram_program
    (emulator : Emulator)
    (program : List UInt8) :
    (emulator.loadProgram program).state.program =
      ((Change.accepted program).after? (emulator.loadProgram program).result).elim
        emulator.program Change.image? := by
  rcases emulator.load_cases program with ⟨-, result, kept⟩ | ⟨-, ⟨error, result⟩, same⟩
  · rw [result, kept]
    rfl
  · rw [result, same]
    rfl

/-- The image after a use is the one that its change leaves, or that from before. -/
theorem use?_program
    {use : Use}
    (used : emulator.use? use = some next) :
    next.program = (emulator.change? use).elim emulator.program Change.image? := by
  cases use with
  | mount place program =>
      obtain rfl : (emulator.mount place program).state = next := Option.some.inj used
      rw [change?]
      rcases emulator.mount_cases place program with ⟨-, mounts⟩ | ⟨-, mounts⟩
      · rw [mounts]
        exact emulator.loadProgram_program program
      · rw [mounts]
        rfl
  | load program =>
      obtain rfl : (emulator.loadProgram program).state = next := Option.some.inj used
      exact emulator.loadProgram_program program
  | unmount place =>
      obtain rfl : (emulator.unmount place).state = next := Option.some.inj used
      rw [change?]
      rcases emulator.unmount_cases place with ⟨-, unmounts⟩ | ⟨-, unmounts⟩ <;>
        rw [unmounts] <;>
        rfl
  | reset =>
      obtain rfl : emulator.reset.state = next := Option.some.inj used
      rw [reset_state]
      rfl
  | stepFrame =>
      obtain ⟨-, rfl⟩ := Reply.survivor?_eq_some_iff.mp used
      exact emulator.emulateFrame_program
  | runFrame host =>
      obtain ⟨_, survived, rfl⟩ := Option.map_eq_some_iff.mp used
      obtain ⟨-, rfl⟩ := Reply.survivor?_eq_some_iff.mp survived
      rcases poll_cases host with ⟨rest, polled⟩ | ⟨keypad, rest, polled⟩
      · rw [(runFrame_of_noKeys polled).2]
        rfl
      · rw [(runFrame_of_keys polled).2.1]
        exact (emulator.withKeys keypad).emulateFrame_program
  | act action =>
      obtain ⟨machine, -, rfl⟩ := Option.map_eq_some_iff.mp used
      rfl

/-- The image after a sequence of uses is the one that the last change leaves. -/
theorem useAll?_program
    {uses : List Use}
    (used : emulator.useAll? uses = some final) :
    final.program = (emulator.changes uses).getLast?.elim emulator.program Change.image? := by
  induction uses generalizing emulator with
  | nil =>
      cases used
      rfl
  | cons use rest inductionHypothesis =>
      obtain ⟨next, first, remaining⟩ := Option.bind_eq_some_iff.mp used
      have onRecord :
          emulator.changes (use :: rest) = (emulator.change? use).toList ++ next.changes rest :=
        recorded_cons first rest
      rw [inductionHypothesis remaining, use?_program first, onRecord, List.getLast?_append]
      cases (next.changes rest).getLast? <;> cases emulator.change? use <;> rfl

/-- The rule for the kept image, from the image that the last change left. -/
theorem mountedBy_of_program
    {changes : List Change}
    (kept : final.program = changes.getLast?.bind Change.image?) :
    final.MountedBy changes := by
  have last
      (program : List UInt8) :
      final.program = some program ↔ ∃ earlier, changes = earlier ++ [.accepted program] := by
    rw [kept, ← List.getLast?_eq_some_iff]
    simp [Option.bind_eq_some_iff]
  have present : final.isMounted "Program" = true ↔ ∃ program, final.program = some program :=
    Option.isSome_iff_exists
  refine ⟨?_, last⟩
  rw [present]
  constructor
  · rintro ⟨program, mounted⟩
    obtain ⟨earlier, shape⟩ := (last program).mp mounted
    exact ⟨earlier, program, [], shape, List.not_mem_nil⟩
  · rintro ⟨earlier, program, later, rfl, unreleased⟩
    rw [kept, List.getLast?_append, List.getLast?_cons]
    -- What follows the accepted image, if anything does, is a list of accepted images.
    cases ends : later.getLast? with
    | none =>
        exact ⟨program, rfl⟩
    | some change =>
        cases change with
        | accepted replacement => exact ⟨replacement, rfl⟩
        | released => exact (unreleased (List.mem_of_getLast? ends)).elim

/-- An image is accepted exactly when it is not empty and fits the program region. -/
theorem loadProgram_result_iff
    (emulator : Emulator)
    (program : List UInt8) :
    (emulator.loadProgram program).result = .ok () ↔
      1 ≤ program.length ∧ program.length ≤ 3584 := by
  rcases emulator.load_cases program with ⟨bounds, result, -⟩ | ⟨outside, ⟨error, result⟩, -⟩
  · exact iff_of_true result bounds
  · rw [result]
    exact iff_of_false nofun outside

/-- An image that is refused leaves the emulator as it was. -/
theorem loadProgram_state_of_refused
    {program : List UInt8}
    (refused : (emulator.loadProgram program).result ≠ .ok ()) :
    (emulator.loadProgram program).state = emulator := by
  rcases emulator.load_cases program with ⟨-, result, -⟩ | ⟨-, -, state⟩
  · exact (refused result).elim
  · exact state

/-- Every emulator mounts and unmounts by the rules. -/
theorem mountingRules
    (emulator : Emulator) :
    emulator.MountingRules where
  load_accepts program :=
    emulator.loadProgram_result_iff program
  mount_accepts place program := by
    rcases emulator.mount_cases place program with ⟨named, mounts⟩ | ⟨other, mounts⟩ <;>
      rw [mounts]
    · rw [emulator.loadProgram_result_iff program, and_iff_right named]
    · exact iff_of_false nofun fun accepted => other accepted.1
  load_refuses program refused :=
    loadProgram_state_of_refused refused
  mount_refuses place program refused := by
    rcases emulator.mount_cases place program with ⟨-, mounts⟩ | ⟨-, mounts⟩ <;>
      rw [mounts] at refused ⊢
    · exact loadProgram_state_of_refused refused
    · rfl
  unmount_accepts place := by
    rcases emulator.unmount_cases place with ⟨named, unmounts⟩ | ⟨other, unmounts⟩ <;>
      rw [unmounts]
    · exact iff_of_true rfl named
    · exact iff_of_false nofun other
  unmount_refuses place refused := by
    rcases emulator.unmount_cases place with ⟨-, unmounts⟩ | ⟨-, unmounts⟩ <;>
      rw [unmounts] at refused ⊢
    · exact (refused rfl).elim
    · rfl
  unmount_clears place released := by
    rcases emulator.unmount_cases place with ⟨-, unmounts⟩ | ⟨-, unmounts⟩ <;>
      rw [unmounts] at released ⊢
    · exact ⟨_, rfl, emulator.machine.memory.clearProgram_getElem?⟩
    · cases released
  stepFrame_unmounted unmounted := by
    simp [stepFrame, emulateFrame, unmounted, Except.map]

/-- An image of an acceptable length is copied again without a failure. -/
theorem reload_of_checked
    (machine : Machine)
    {program : List UInt8}
    (checked : Memory.checkProgram program = .ok ()) :
    (∀ error, .reloadFailed error ∉ (reload machine (some program)).events) ∧
      (reload machine (some program)).state.memory = machine.memory.fill programStart program := by
  rcases machine.loadProgram_cases program with ⟨-, result, state⟩ | ⟨_, rejected, -⟩
  · simp only [reload, result, state, and_true]
    exact machine.loadProgram_events program
  · rw [checked] at rejected
    cases rejected

/-- The image that an emulator keeps, and one that it accepts, can be copied again. -/
theorem Configured.reloads
    {config : Config}
    (configured : emulator.Configured config) :
    emulator.Reloads := by
  have load
      (program : List UInt8)
      (error : LoadError) :
      .reloadFailed error ∉ (emulator.loadProgram program).events := by
    have copied := emulator.machine.loadProgram_events program error
    rcases emulator.machine.loadProgram_cases program with
      ⟨checked, result, -⟩ | ⟨_, -, result, -⟩
    · simp only [loadProgram, result, List.mem_append, not_or]
      exact ⟨copied, (reload_of_checked _ checked).1 error⟩
    · simp only [loadProgram, result]
      exact copied
  refine ⟨?_, ?_, load, ?_⟩
  · intro program mounted
    rw [reset_state, mounted, (reload_of_checked _ (configured.loadable program mounted)).2]
    simp only [Machine.powerOn]
  · intro error
    unfold Emulator.reset
    cases mounted : emulator.program with
    | none => exact List.not_mem_nil
    | some program =>
        exact (reload_of_checked _ (configured.loadable program mounted)).1 error
  · intro place program error
    rcases emulator.mount_cases place program with ⟨-, mounts⟩ | ⟨-, mounts⟩ <;>
      rw [mounts]
    · exact load program error
    · exact List.not_mem_nil

/--
The mounted image of an emulator is the one accepted last, unless it was
released since, and it can be copied to memory at every reset; what the single
operations accept and change follows the rules for mounting.
-/
theorem mounting_follows_changes :
    (∀ emulator : Emulator, emulator.MountingRules) ∧
    (∀ config entropy uses final,
      (ofConfig config entropy).useAll? uses = some final →
      final.MountedBy ((ofConfig config entropy).changes uses) ∧ final.Reloads) := by
  refine ⟨mountingRules, ?_⟩
  intro config entropy uses final used
  refine ⟨mountedBy_of_program ?_, ((ofConfig_configured config entropy).useAll? used).reloads⟩
  rw [useAll?_program used]
  cases ((ofConfig config entropy).changes uses).getLast? <;> rfl

/-- A first image, refused ones, frames, a release, and a second image. -/
def remounting : List Use :=
  [.stepFrame, .mount "Program" [0x60, 0x42], .load [], .mount "Disk" [0x00, 0xE0], .stepFrame,
    .unmount "Disk", .unmount "Program", .runFrame (ScriptedHost.idle 1),
    .load [0x12, 0x00], .reset]

/-- An image is mounted and released and another one mounted, while others are refused. -/
theorem remounting_followsChanges :
    ∃ final,
      (ofConfig Config.standard 0).useAll? remounting = some final ∧
        (ofConfig Config.standard 0).changes remounting =
          [.accepted [0x60, 0x42], .released, .accepted [0x12, 0x00]] ∧
        final.MountedBy [.accepted [0x60, 0x42], .released, .accepted [0x12, 0x00]] ∧
        final.Reloads ∧
        final.MountingRules := by
  obtain ⟨final, used⟩ :
      ∃ final, (ofConfig Config.standard 0).useAll? remounting = some final :=
    Option.isSome_iff_exists.mp (by decide +kernel)
  have changed :
      (ofConfig Config.standard 0).changes remounting =
        [.accepted [0x60, 0x42], .released, .accepted [0x12, 0x00]] := by
    decide +kernel
  obtain ⟨rules, follows⟩ := mounting_follows_changes
  obtain ⟨mounted, reloads⟩ := follows Config.standard 0 remounting final used
  rw [changed] at mounted
  exact ⟨final, used, changed, mounted, reloads, rules final⟩

end Emulator

end Chip8
