import Chip8.Proofs.Machine.Stops
import Mathlib.Logic.Function.Iterate

namespace Chip8.Machine

/-!
# Loops of steps and ticks

The loop of a frame takes a bounded number of steps and leaves at the first one
that stops.  Here its result and its state are read off the sequence of
machines that plain repetition of the step gives, and the timers that run for
many ticks are those of single ticks.
-/

/-- The machine after a number of steps, however they end. -/
def afterSteps
    (machine : Machine)
    (count : Nat) :
    Machine :=
  (fun current : Machine => current.step.state)^[count] machine

/-- The stop of the step that follows a number of steps, with that number. -/
def stopAfter?
    (machine : Machine)
    (count : Nat) :
    Option (Nat × Stop) :=
  match (machine.afterSteps count).step.result with
  | .ok () => none
  | .error stop => some (count, stop)

/-- The first stop among a number of steps, with the number of steps before it. -/
def firstStop?
    (machine : Machine)
    (cycles : Nat) :
    Option (Nat × Stop) :=
  (List.range cycles).findSome? machine.stopAfter?

/-- The machine after a number of single ticks. -/
def afterTicks
    (machine : Machine)
    (ticks : Nat) :
    Machine :=
  tick^[ticks] machine

variable {machine : Machine}

/-- A first stop counts the steps from the first one. -/
theorem firstStop?_succ
    (machine : Machine)
    (cycles : Nat) :
    machine.firstStop? (cycles + 1) =
      match machine.step.result with
      | .error stop => some (0, stop)
      | .ok () =>
          (machine.step.state.firstStop? cycles).map fun (count, stop) => (count + 1, stop) := by
  have later :
      machine.stopAfter? ∘ Nat.succ =
        Option.map (fun (count, stop) => (count + 1, stop)) ∘ machine.step.state.stopAfter? := by
    funext count
    have shifted : machine.afterSteps (count + 1) = machine.step.state.afterSteps count :=
      rfl
    simp only [Function.comp_apply, Nat.succ_eq_add_one, stopAfter?, shifted]
    cases (machine.step.state.afterSteps count).step.result <;> rfl
  have first :
      machine.stopAfter? 0 =
        match machine.step.result with
        | .ok () => none
        | .error stop => some (0, stop) :=
    rfl
  simp only [firstStop?, List.range_succ_eq_map, List.findSome?_cons, List.findSome?_map, later,
    first, List.map_findSome?]
  cases machine.step.result <;> rfl

/-- A loop in which a step stops ends before that step, with its stop. -/
theorem runAnnouncing_of_stop
    (announced : Array Event)
    {cycles count : Nat}
    {stop : Stop}
    (stops : machine.firstStop? cycles = some (count, stop)) :
    (runAnnouncing announced cycles machine).result = .error stop ∧
      (runAnnouncing announced cycles machine).state = machine.afterSteps count := by
  induction cycles generalizing machine announced count with
  | zero =>
      simp [firstStop?] at stops
  | succ cycles inductionHypothesis =>
      rw [firstStop?_succ] at stops
      cases ends : machine.step.result with
      | error found =>
          simp only [ends, Option.some.injEq, Prod.mk.injEq] at stops
          obtain ⟨rfl, rfl⟩ := stops
          have kept : machine.step.state = machine :=
            (step_of_stop (step_result_eq_error_iff.mp ends)).2
          simp [runAnnouncing, ends, kept, afterSteps]
      | ok =>
          simp only [ends, Option.map_eq_some_iff, Prod.mk.injEq] at stops
          obtain ⟨⟨before, found⟩, stopsLater, rfl, rfl⟩ := stops
          simp only [runAnnouncing, ends]
          exact inductionHypothesis _ stopsLater

/-- A loop in which no step stops takes all its steps. -/
theorem runAnnouncing_of_noStop
    (announced : Array Event)
    {cycles : Nat}
    (runs : machine.firstStop? cycles = none) :
    (runAnnouncing announced cycles machine).result = .ok () ∧
      (runAnnouncing announced cycles machine).state = machine.afterSteps cycles := by
  induction cycles generalizing machine announced with
  | zero =>
      exact ⟨rfl, rfl⟩
  | succ cycles inductionHypothesis =>
      rw [firstStop?_succ] at runs
      cases ends : machine.step.result with
      | error found =>
          simp [ends] at runs
      | ok =>
          simp only [ends, Option.map_eq_none_iff] at runs
          simp only [runAnnouncing, ends]
          exact inductionHypothesis _ runs

/-- A loop whose first step succeeds goes on from there with one step less. -/
theorem run_of_succeeded
    (succeeded : machine.step.result = .ok ())
    (cycles : Nat) :
    (machine.run (cycles + 1)).result = (machine.step.state.run cycles).result ∧
      (machine.run (cycles + 1)).state = (machine.step.state.run cycles).state := by
  have unrolled :
      machine.run (cycles + 1) =
        runAnnouncing ((#[] : Array Event) ++ machine.step.events) cycles machine.step.state := by
    simp only [run, runAnnouncing, succeeded]
  rw [unrolled, run]
  cases stops : machine.step.state.firstStop? cycles with
  | none =>
      obtain ⟨result, state⟩ := runAnnouncing_of_noStop #[] stops
      obtain ⟨announcedResult, announcedState⟩ :=
        runAnnouncing_of_noStop ((#[] : Array Event) ++ machine.step.events) stops
      exact ⟨announcedResult.trans result.symm, announcedState.trans state.symm⟩
  | some stopped =>
      obtain ⟨result, state⟩ := runAnnouncing_of_stop #[] stops
      obtain ⟨announcedResult, announcedState⟩ :=
        runAnnouncing_of_stop ((#[] : Array Event) ++ machine.step.events) stops
      exact ⟨announcedResult.trans result.symm, announcedState.trans state.symm⟩

/-- A timer that has run for a number of ticks lost one for each and stopped at zero. -/
theorem timer_toNat
    (value : UInt8)
    (ticks : Nat) :
    (UInt8.ofNat (value.toNat - ticks)).toNat = value.toNat - ticks :=
  UInt8.toNat_ofNat_of_lt' (Nat.lt_of_le_of_lt (Nat.sub_le _ _) value.toNat_lt)

/-- Ticks that pass in two parts pass in all. -/
theorem elapse_elapse
    (machine : Machine)
    (first second : Nat) :
    (machine.elapse first).elapse second = machine.elapse (first + second) := by
  simp only [elapse, timer_toNat, Nat.sub_sub]

/-- Single ticks let the timers run for as many ticks. -/
theorem afterTicks_eq_elapse
    (machine : Machine)
    (ticks : Nat) :
    machine.afterTicks ticks = machine.elapse ticks := by
  induction ticks generalizing machine with
  | zero =>
      simp [afterTicks, elapse]
  | succ ticks inductionHypothesis =>
      have unrolled : machine.afterTicks (ticks + 1) = machine.tick.afterTicks ticks :=
        rfl
      rw [unrolled, inductionHypothesis, tick, elapse_elapse, Nat.add_comm]

end Chip8.Machine
