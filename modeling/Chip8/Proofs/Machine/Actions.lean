import Chip8.Proofs.Machine.Stops

namespace Chip8.Machine

/-!
# Runs of a machine

What a host can do with a machine, and the machines that it can reach from
power-on by any sequence of such actions.  A fault is an outcome like any other
and the run goes on after it; nothing follows a crash.
-/

/-- One action of a host on a machine. -/
inductive Action where
  | step
  | load (program : List UInt8)
  /-- Any keys may change at once. -/
  | setKeys (keypad : Keypad)
  | tick
  | reset
  /-- Any stream may be started, that of a seed or one from outside. -/
  | reseed (random : RandomStream)

/-- The machine after an action, if the action does not crash it. -/
def perform?
    (machine : Machine) :
    Action → Option Machine
  | .step =>
      match machine.step.result with
      | .error .crash => none
      | _ => some machine.step.state
  | .load program => some (machine.loadProgram program).state
  | .setKeys keypad => some { machine with keypad }
  | .tick => some machine.tick
  | .reset => some machine.reset
  | .reseed random => some { machine with random }

/-- The machine after a sequence of actions, if none of them crashes it. -/
def performAll?
    (machine : Machine) :
    List Action → Option Machine
  | [] => some machine
  | action :: rest => (machine.perform? action).bind fun next => next.performAll? rest

/-- The word that an action executes, if it is a step that succeeds. -/
def executed?
    (machine : Machine) :
    Action → Option UInt16
  | .step =>
      match machine.step.result with
      | .ok () => (machine.memory.readWord machine.pc.toNat).toOption
      | .error _ => none
  | _ => none

/-- The words that the successful steps among some actions execute, in order. -/
def executedWords
    (machine : Machine) :
    List Action → List UInt16
  | [] => []
  | action :: rest =>
      match machine.perform? action with
      | some next => (machine.executed? action).toList ++ next.executedWords rest
      | none => []

/-- What an action answers, if it is a step. -/
def reply?
    (machine : Machine) :
    Action → Option (Reply Machine (Except Stop Unit))
  | .step => some machine.step
  | _ => none

/-- What the steps among some actions answer, in order, up to the one that crashes. -/
def stepReplies
    (machine : Machine) :
    List Action → List (Reply Machine (Except Stop Unit))
  | [] => []
  | action :: rest =>
      (machine.reply? action).toList ++
        match machine.perform? action with
        | some next => next.stepReplies rest
        | none => []

/-- The machine is reached from power-on by some sequence of actions. -/
def Reachable (machine : Machine) : Prop :=
  ∃ semantics random actions,
    (powerOn semantics random).performAll? actions = some machine

/-- What every action preserves holds after every sequence of actions. -/
theorem performAll?_preserves
    {Invariant : Machine → Prop}
    (preserved :
      ∀ machine action next,
        Invariant machine → machine.perform? action = some next → Invariant next)
    {machine final : Machine}
    {actions : List Action}
    (initially : Invariant machine)
    (performed : machine.performAll? actions = some final) :
    Invariant final := by
  induction actions generalizing machine with
  | nil =>
      cases performed
      exact initially
  | cons action rest inductionHypothesis =>
      obtain ⟨next, first, remaining⟩ := Option.bind_eq_some_iff.mp performed
      exact inductionHypothesis (preserved machine action next initially first) remaining

/-- What holds at power-on and is preserved by every action holds of every reachable machine. -/
theorem Reachable.invariant
    {Invariant : Machine → Prop}
    (atPowerOn : ∀ semantics random, Invariant (powerOn semantics random))
    (preserved :
      ∀ machine action next,
        Invariant machine → machine.perform? action = some next → Invariant next)
    {machine : Machine}
    (reachable : machine.Reachable) :
    Invariant machine := by
  obtain ⟨semantics, random, actions, performed⟩ := reachable
  exact performAll?_preserves preserved (atPowerOn semantics random) performed

/-- A step that is performed either faults or succeeds, and leaves the machine of its reply. -/
theorem perform?_step_eq_some_iff
    {machine next : Machine} :
    machine.perform? .step = some next ↔
      machine.step.result ≠ .error .crash ∧ next = machine.step.state := by
  cases ends : machine.step.result with
  | ok =>
      simp [perform?, ends, eq_comm]
  | error stop =>
      cases stop <;> simp [perform?, ends, eq_comm]

end Chip8.Machine
