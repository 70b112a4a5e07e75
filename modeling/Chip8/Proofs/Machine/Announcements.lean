import Chip8.Proofs.Machine.Stops

namespace Chip8

/-!
# What a run announces

A run announces what its steps announce, in their order.  Of these events only
those of the step itself, before and after an execution, are of the processor's
category; what an instruction announces while it executes belongs to others.
-/

namespace Machine

variable {machine : Machine}

/-- The machines before each step of a run, the last of which may be one whose step fails. -/
def stepped (machine : Machine) : Nat → List Machine
  | 0 => []
  | cycles + 1 =>
      machine ::
        match machine.step.result with
        | .ok () => machine.step.state.stepped cycles
        | .error _ => []

/-- A run announces what each of its steps announces, in order. -/
theorem runAnnouncing_events
    (announced : Array Event)
    (cycles : Nat)
    (machine : Machine) :
    (runAnnouncing announced cycles machine).events =
      announced.toList ++ (machine.stepped cycles).flatMap fun current => current.step.events := by
  induction cycles generalizing announced machine with
  | zero =>
      simp [runAnnouncing, stepped]
  | succ cycles inductionHypothesis =>
      cases ends : machine.step.result with
      | ok =>
          simp [runAnnouncing, stepped, ends, inductionHypothesis]
      | error =>
          simp [runAnnouncing, stepped, ends]

/-- A run announces what its steps announce. -/
theorem run_events
    (machine : Machine)
    (cycles : Nat) :
    (machine.run cycles).events =
      (machine.stepped cycles).flatMap fun current => current.step.events := by
  rw [run, runAnnouncing_events, Array.toList_empty, List.nil_append]

/-- A drawing announces clipped pixels and a collision only. -/
theorem draw_events_category
    (screen : Screen)
    (x y : UInt8)
    (rows : List UInt8) :
    ∀ event ∈ (screen.draw x y rows).events, event.category = .display := by
  intro event member
  simp only [Screen.draw] at member
  split at member
  next =>
    rcases List.mem_append.mp member with clipped | collision
    · obtain ⟨_, _, rfl⟩ := List.mem_map.mp clipped
      rfl
    · rw [List.mem_singleton.mp collision]
      rfl
  next =>
    obtain ⟨_, _, rfl⟩ := List.mem_map.mp member
    rfl

/-- Drawing a sprite announces nothing but what the display does. -/
theorem drawSprite_events
    (x y : Register)
    (rows : UInt8) :
    ∀ event ∈ (machine.drawSprite x y rows).events, event.category = .display := by
  unfold drawSprite
  split
  next =>
    exact draw_events_category _ _ _ _
  next =>
    exact fun _ member => nomatch member

/-- The instructions that announce something; the rest execute in silence. -/
theorem execute_events
    (instruction : Instruction) :
    (machine.execute instruction).events =
      match instruction with
      | .copy x y => if machine.semantics = .referenceExact then [.copyIgnored x y] else []
      | .draw x y rows => (machine.drawSprite x y rows).events
      | .waitForKey x => (machine.awaitKey x).events
      | _ => [] := by
  have store
      (data : List UInt8) :
      (machine.storeAtIndex data).events = [] := by
    unfold storeAtIndex
    split <;> rfl
  cases instruction with
  | returnFromCall =>
      simp only [execute, popReturn]
      split
      next => rfl
      next => split <;> rfl
  | call =>
      simp only [execute, pushCall]
      split <;> rfl
  | skipIfKeyDown x | skipIfKeyUp x =>
      simp only [execute, skipIfKey]
      split <;> rfl
  | copy x y =>
      simp only [execute]
      cases machine.semantics <;> rfl
  | jumpOffset address =>
      simp only [execute]
      cases machine.semantics <;> rfl
  | storeDigits x | storeRegisters x =>
      exact store _
  | loadRegisters x =>
      simp only [execute]
      split
      next => exact store _
      next => split <;> rfl
  | _ => rfl

/-- Carrying out an instruction announces nothing about the processor. -/
theorem execute_events_category
    (instruction : Instruction) :
    ∀ event ∈ (machine.execute instruction).events, event.category ≠ .cpu := by
  intro event member
  rw [execute_events] at member
  split at member
  next =>
    split at member
    next =>
      rw [List.mem_singleton.mp member]
      exact fun same => nomatch same
    next =>
      cases member
  next =>
    rw [drawSprite_events _ _ _ event member]
    exact fun same => nomatch same
  next =>
    unfold awaitKey at member
    split at member
    next =>
      cases member
    next =>
      rw [List.mem_singleton.mp member]
      exact fun same => nomatch same
  next =>
    cases member

/-- The events of the processor in a step. -/
theorem step_cpuEvents
    (machine : Machine) :
    (machine.step.events.filter fun event => event.category = .cpu) =
      match machine.memory.readWord machine.pc.toNat with
      | .error stop => fetchEvents machine.pc stop
      | .ok word =>
          match Instruction.decode? word with
          | none => []
          | some instruction =>
              .executed machine.pc word instruction ::
                match machine.step.result with
                | .ok () => []
                | .error stop => faultEvents machine.pc word stop := by
  cases fetch : machine.memory.readWord machine.pc.toNat with
  | error stop =>
      cases stop <;>
      simp [step, fetch, Reply.failed, Reply.announcing, fetchEvents, Event.category]
  | ok word =>
      cases decoded : Instruction.decode? word with
      | none =>
          simp [step, fetch, decoded, Reply.done, Reply.announcing, Event.category]
      | some instruction =>
          have silent :
              (((machine.fetched word).execute instruction).events.filter fun event =>
                event.category = .cpu) = [] := by
            rw [List.filter_eq_nil_iff]
            intro event member
            simpa using execute_events_category instruction event member
          have executed :
              (Event.executed machine.pc word instruction).category = .cpu :=
            rfl
          have faulted
              (cause : Fault) :
              (Event.faulted machine.pc word cause).category = .cpu :=
            rfl
          cases ends : ((machine.fetched word).execute instruction).result with
          | ok =>
              simp [step, fetch, decoded, ends, silent, executed]
          | error stop =>
              cases stop <;>
                simp [step, fetch, decoded, ends, silent, faultEvents, executed, faulted]

end Machine

end Chip8
