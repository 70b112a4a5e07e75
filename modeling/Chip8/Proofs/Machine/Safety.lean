import Chip8.Proofs.Machine.Ranges

namespace Chip8.Machine

/-!
# Crashes of reachable machines

The stack pointer stays inside the stack on every machine that is reached from
power-on, so no return can crash.  What remains is the empty sprite above the
end of memory, and it can be reached.
-/

variable {machine : Machine}

/-- The stack pointer of every reachable machine is inside the stack. -/
theorem Reachable.sp_le
    (reachable : machine.Reachable) :
    machine.sp.toNat ≤ stackDepth :=
  reachable.inRange.sp

/-- The next word draws a sprite without rows that lies above the end of memory. -/
def DrawsNothingAbove (machine : Machine) : Prop :=
  ∃ word,
    machine.memory.readWord machine.pc.toNat = .ok word ∧
      Word.IsSprite word ∧ Word.low word = 0 ∧ 0x1000 < machine.index.toNat

/-- A reachable machine crashes exactly on an empty sprite above the end of memory. -/
theorem Reachable.step_crashes_iff
    (reachable : machine.Reachable) :
    machine.step.result = .error .crash ↔ machine.DrawsNothingAbove := by
  by_cases inside : machine.pc.toNat + 1 < memorySize
  · obtain ⟨high, low, _, _, fetch⟩ := machine.memory.readWord_of_inside inside
    rw [Machine.step_crashes_iff fetch]
    constructor
    · rintro (⟨_, past⟩ | sprite)
      · exact (Nat.not_lt.mpr reachable.sp_le past).elim
      · exact ⟨_, fetch, sprite⟩
    · rintro ⟨other, same, sprite⟩
      obtain rfl := Except.ok.inj (fetch.symm.trans same)
      exact .inr sprite
  · have fetch := machine.memory.readWord_of_outside (Nat.not_lt.mp inside)
    simp [step_result_eq_error_iff, stepStop?, DrawsNothingAbove, fetch]

/--
Where accesses are guarded.  A reachable machine takes every step without a
crash unless the step draws an empty sprite above the end of memory; bytes and
words can be accessed anywhere, and blocks unless they are empty and above the
end.
-/
theorem guarded_except_empty_blocks
    (machine : Machine)
    (reachable : machine.Reachable)
    (memory : Memory)
    (address : Nat) :
    ((machine.step.result = .ok () ∨
        ∃ cause, machine.step.result = .error (.fault cause)) ↔
      ¬machine.DrawsNothingAbove) ∧
    Memory.Guarded (memory.read address) ∧
    (∀ byte, Memory.Guarded (memory.write address byte)) ∧
    Memory.Guarded (memory.readWord address) ∧
    (∀ length,
      Memory.Guarded (memory.slice address length) ↔
        ¬(length = 0 ∧ 0x1000 < address)) ∧
    (∀ data,
      Memory.Guarded (memory.writeSlice address data) ↔
        ¬(data = [] ∧ 0x1000 < address)) := by
  refine
    ⟨?_,
      memory.read_guarded address,
      memory.write_guarded address,
      memory.readWord_guarded address,
      memory.slice_guarded_iff address,
      memory.writeSlice_guarded_iff address⟩
  rw [← reachable.step_crashes_iff]
  cases ends : machine.step.result with
  | ok =>
      simp
  | error stop =>
      cases stop <;> simp

/-- At power-on a step is guarded, and past the end every slice but the empty one is. -/
theorem powerOn_guarded :
    let machine := powerOn .corrected (RandomStream.ofSeed 0)
    machine.Reachable ∧
      (machine.step.result = .ok () ∨
        ∃ cause, machine.step.result = .error (.fault cause)) ∧
      Memory.Guarded (machine.memory.slice 0x1001 1) ∧
      ¬Memory.Guarded (machine.memory.slice 0x1001 0) := by
  intro machine
  have reachable : machine.Reachable :=
    ⟨_, _, [], rfl⟩
  obtain ⟨steps, -, -, -, slices, -⟩ :=
    guarded_except_empty_blocks machine reachable machine.memory 0x1001
  refine ⟨reachable, steps.mpr ?_, (slices 1).mpr (by decide), ?_⟩
  · rintro ⟨_, -, -, -, above⟩
    exact absurd above (by decide)
  · intro guarded
    exact (slices 0).mp guarded (by decide)

/-- Load a program that pushes the index past the end of memory, and take three steps. -/
def emptySpriteRun : List Action :=
  [.load [0xAF, 0xFF, 0x60, 0xFF, 0xF0, 0x1E, 0xD0, 0x00], .step, .step, .step]

/-- A program can crash a machine: the fourth word draws no rows at `0x10FE`. -/
theorem emptySpriteRun_crashes :
    ∃ machine : Machine,
      (powerOn .referenceExact (RandomStream.ofSeed 0)).performAll? emptySpriteRun =
          some machine ∧
        machine.Reachable ∧ machine.step.result = .error .crash := by
  have stops :
      ((powerOn .referenceExact (RandomStream.ofSeed 0)).performAll? emptySpriteRun).map
          stepStop? =
        some (some .crash) := by
    decide +kernel
  obtain ⟨machine, performed, crashes⟩ := Option.map_eq_some_iff.mp stops
  exact ⟨machine, performed, ⟨_, _, _, performed⟩, step_result_eq_error_iff.mpr crashes⟩

end Chip8.Machine
