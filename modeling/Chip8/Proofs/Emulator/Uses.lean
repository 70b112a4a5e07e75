import Chip8.Proofs.Emulator.Frames
import Chip8.Proofs.Emulator.Restart
import Chip8.Proofs.Machine.Actions

namespace Chip8

/-!
# Uses of an emulator

Everything that a host can do with an emulator: the operations of the emulator
itself, in any order and with any arguments, and actions on the machine inside.
An operation that is refused or meets a fault is a use like any other and the
sequence goes on after it; nothing follows a crash.
-/

/-- One use of an emulator by its host. -/
inductive Use : Type 1 where
  | mount (place : String) (program : List UInt8)
  | load (program : List UInt8)
  | unmount (place : String)
  | reset
  | stepFrame
  /-- Each frame may be run with a host of its own. -/
  | runFrame {H : Type} [Host H] (host : H)
  /-- The machine inside may be acted on directly. -/
  | act (action : Machine.Action)

/-- The state that a reply leaves, unless the operation crashed. -/
def Reply.survivor?
    {State Result : Type}
    (reply : Reply State (Except Halt Result)) :
    Option State :=
  match reply.result with
  | .error .crash => none
  | _ => some reply.state

/-- A reply leaves a state behind unless it crashes. -/
theorem Reply.survivor?_eq_some_iff
    {State Result : Type}
    {reply : Reply State (Except Halt Result)}
    {state : State} :
    reply.survivor? = some state ↔ reply.result ≠ .error .crash ∧ reply.state = state := by
  cases ends : reply.result with
  | ok => simp [survivor?, ends]
  | error halt => cases halt <;> simp [survivor?, ends]

/-- No action on a machine changes its reading of the instructions. -/
theorem Machine.perform?_semantics
    {machine next : Machine}
    {action : Action}
    (performed : machine.perform? action = some next) :
    next.semantics = machine.semantics := by
  cases action with
  | step =>
      obtain ⟨_, rfl⟩ := perform?_step_eq_some_iff.mp performed
      exact machine.step_semantics
  | load program =>
      obtain rfl := Option.some.inj performed
      rcases machine.loadProgram_cases program with ⟨_, _, state⟩ | ⟨_, _, _, state⟩ <;>
        rw [state]
  | reset =>
      obtain rfl : machine.reset = next := Option.some.inj performed
      rw [reset_eq_powerOn, powerOn_semantics]
  | setKeys keypad | tick | reseed random =>
      obtain rfl := Option.some.inj performed
      rfl

namespace Emulator

/-- The emulator after a use, if the use does not crash it. -/
def use?
    (emulator : Emulator) :
    Use → Option Emulator
  | .mount place program => some (emulator.mount place program).state
  | .load program => some (emulator.loadProgram program).state
  | .unmount place => some (emulator.unmount place).state
  | .reset => some emulator.reset.state
  | .stepFrame => emulator.stepFrame.survivor?
  | @Use.runFrame _ _ host => (emulator.runFrame host).survivor?.map Prod.fst
  | .act action =>
      (emulator.machine.perform? action).map fun machine => { emulator with machine }

/-- The emulator after a sequence of uses, if none of them crashes it. -/
def useAll?
    (emulator : Emulator) :
    List Use → Option Emulator
  | [] => some emulator
  | use :: rest => (emulator.use? use).bind fun next => next.useAll? rest

/-- What the uses of a sequence leave on record, in order, up to one that crashes. -/
def recorded
    {Entry : Type}
    (emulator : Emulator)
    (record : Emulator → Use → List Entry) :
    List Use → List Entry
  | [] => []
  | use :: rest =>
      record emulator use ++
        match emulator.use? use with
        | some next => next.recorded record rest
        | none => []

variable {emulator next final : Emulator}

/-- What is recorded of some uses is what is recorded of the first one and then of the rest. -/
theorem recorded_cons
    {Entry : Type}
    {record : Emulator → Use → List Entry}
    {use : Use}
    (used : emulator.use? use = some next)
    (rest : List Use) :
    emulator.recorded record (use :: rest) = record emulator use ++ next.recorded record rest := by
  rw [recorded, used]

/-- A host ends the run or gives keys for a frame. -/
theorem poll_cases
    {H : Type}
    [Host H]
    (host : H) :
    (∃ rest, Host.poll host = (none, rest)) ∨
      (∃ keypad rest, Host.poll host = (some keypad, rest)) := by
  obtain ⟨keys?, rest⟩ := Host.poll host
  cases keys? with
  | none => exact .inl ⟨rest, rfl⟩
  | some keypad => exact .inr ⟨keypad, rest, rfl⟩

/-- A host that gives no keys ends the run and leaves the emulator as it was. -/
theorem runFrame_of_noKeys
    {H : Type}
    [Host H]
    {host rest : H}
    (polled : Host.poll host = (none, rest)) :
    (emulator.runFrame host).result = .ok false ∧
      (emulator.runFrame host).state = (emulator, rest) := by
  simp [runFrame, polled]

/-- A host that gives keys runs a frame with them, and takes nothing from one that fails. -/
theorem runFrame_of_keys
    {H : Type}
    [Host H]
    {host rest : H}
    {keypad : Keypad}
    (polled : Host.poll host = (some keypad, rest)) :
    (emulator.runFrame host).result =
        (emulator.withKeys keypad).emulateFrame.result.map (fun _ => true) ∧
      (emulator.runFrame host).state.1 = (emulator.withKeys keypad).emulateFrame.state ∧
      ∀ halt,
        (emulator.withKeys keypad).emulateFrame.result = .error halt →
        (emulator.runFrame host).state.2 = rest := by
  cases framed : (emulator.withKeys keypad).emulateFrame.result <;>
    unfold withKeys at framed ⊢ <;>
    simp [runFrame, polled, framed, Except.map]

/-- What every use from a list preserves holds after all of them. -/
theorem useAll?_preserves
    {Invariant : Emulator → Prop}
    {uses : List Use}
    (preserved :
      ∀ emulator next,
        ∀ use ∈ uses,
          Invariant emulator → emulator.use? use = some next → Invariant next)
    (initially : Invariant emulator)
    (used : emulator.useAll? uses = some final) :
    Invariant final := by
  induction uses generalizing emulator with
  | nil =>
      cases used
      exact initially
  | cons use rest inductionHypothesis =>
      obtain ⟨next, first, remaining⟩ := Option.bind_eq_some_iff.mp used
      exact inductionHypothesis
        (fun emulator next later member => preserved emulator next later (List.mem_cons_of_mem _ member))
        (preserved emulator next use List.mem_cons_self initially first) remaining

/-- A use is an operation or a write to the machine that keeps its semantics. -/
theorem use?_operates
    {use : Use}
    (used : emulator.use? use = some next) :
    Operates emulator next := by
  cases use with
  | mount place program =>
      obtain rfl := Option.some.inj used
      exact .mount emulator place program
  | load program =>
      obtain rfl := Option.some.inj used
      exact .load emulator program
  | unmount place =>
      obtain rfl := Option.some.inj used
      exact .unmount emulator place
  | reset =>
      obtain rfl : emulator.reset.state = next := Option.some.inj used
      exact .reset emulator
  | stepFrame =>
      obtain ⟨_, rfl⟩ := Reply.survivor?_eq_some_iff.mp used
      exact .stepFrame emulator
  | runFrame host =>
      obtain ⟨_, survived, rfl⟩ := Option.map_eq_some_iff.mp used
      obtain ⟨_, rfl⟩ := Reply.survivor?_eq_some_iff.mp survived
      exact .runFrame emulator host
  | act action =>
      obtain ⟨machine, performed, rfl⟩ := Option.map_eq_some_iff.mp used
      exact .write emulator machine (Machine.perform?_semantics performed)

/-- No sequence of uses changes the settings or mounts a program that cannot be loaded. -/
theorem Configured.useAll?
    {config : Config}
    {uses : List Use}
    (configured : emulator.Configured config)
    (used : emulator.useAll? uses = some final) :
    final.Configured config :=
  useAll?_preserves
    (fun _ _ _ _ configured used => Configured.operates configured (use?_operates used))
    configured used

end Emulator

end Chip8
