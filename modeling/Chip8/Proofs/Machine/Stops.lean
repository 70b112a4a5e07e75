import Chip8.Machine.Step
import Chip8.Proofs.Memory.Blocks

namespace Chip8.Machine

/-!
# Where steps stop

Whether an instruction can be executed depends on the stack pointer, the index
and one register, and is settled before anything is written.  This module says
for each instruction why it stops, and shows that a reply either is that stop
with the machine as it was or succeeds.  Steps inherit both halves, so a
faulting step leaves no trace.
-/

/-- Why a return stops: the stack is empty, or the pointer is past its end. -/
def returnStop? (machine : Machine) : Option Stop :=
  if machine.sp = 0 then
    some (.fault .stackUnderflow)
  else if stackDepth < machine.sp.toNat then
    some .crash
  else
    none

/-- Why a call stops: the stack has no free slot. -/
def callStop? (machine : Machine) : Option Stop :=
  if stackDepth ≤ machine.sp.toNat then
    some (.fault .stackOverflow)
  else
    none

/-- Why a question about a key stops: the register names no key. -/
def keyStop?
    (machine : Machine)
    (x : Register) :
    Option Stop :=
  if keyCount ≤ (machine.register x).toNat then
    some (.fault (.keyOutOfRange (machine.register x)))
  else
    none

/-- Why an access to a block at the index stops. -/
def indexStop?
    (machine : Machine)
    (length : Nat) :
    Option Stop :=
  Memory.blockStop? machine.index.toNat length

/-- Why an instruction stops on a machine, if it does. -/
def stop?
    (machine : Machine) :
    Instruction → Option Stop
  | .returnFromCall => machine.returnStop?
  | .call _ => machine.callStop?
  | .skipIfKeyDown x => machine.keyStop? x
  | .skipIfKeyUp x => machine.keyStop? x
  | .draw _ _ rows => machine.indexStop? rows.toNat
  | .storeDigits _ => machine.indexStop? 3
  | .storeRegisters x => machine.indexStop? (x.val + 1)
  | .loadRegisters x => machine.indexStop? (x.val + 1)
  | _ => none

/-- A reply that is a given stop with the machine as it was, or succeeds if there is none. -/
def Ends
    (machine : Machine)
    (reply : Reply Machine (Except Stop Unit)) :
    Option Stop → Prop
  | some stop => reply = Reply.failed machine stop
  | none => reply.result = .ok ()

variable (machine : Machine)

/-- A return ends as its stop says. -/
theorem popReturn_ends :
    machine.Ends machine.popReturn machine.returnStop? := by
  unfold popReturn returnStop?
  by_cases empty : machine.sp = 0
  · simp [empty, Ends]
  · have positive : machine.sp.toNat ≠ 0 := by
      intro zero
      exact empty (UInt8.toNat_inj.mp zero)
    by_cases past : stackDepth < machine.sp.toNat
    · have missing : machine.stack[machine.sp.toNat - 1]? = none := by
        simp only [Vector.getElem?_eq_none_iff]
        omega
      simp [empty, past, missing, Ends]
    · have slot : machine.sp.toNat - 1 < stackDepth := by
        omega
      simp [empty, past, slot, Ends]

/-- A call ends as its stop says. -/
theorem pushCall_ends
    (address : UInt16) :
    machine.Ends (machine.pushCall address) machine.callStop? := by
  unfold pushCall callStop?
  by_cases free : machine.sp.toNat < stackDepth
  · simp [free, Nat.not_le.mpr free, Ends]
  · simp [free, Nat.not_lt.mp free, Ends]

/-- A skip on a key ends as its stop says. -/
theorem skipIfKey_ends
    (x : Register)
    (position : Bool) :
    machine.Ends (machine.skipIfKey x position) (machine.keyStop? x) := by
  unfold skipIfKey keyStop? Keypad.isDown
  by_cases named : (machine.register x).toNat < keyCount
  · simp [named, Nat.not_le.mpr named, Ends]
  · simp [named, Nat.not_lt.mp named, Ends]

/-- Storing at the index ends as the stop of its block says. -/
theorem storeAtIndex_ends
    (data : List UInt8) :
    machine.Ends (machine.storeAtIndex data) (machine.indexStop? data.length) := by
  unfold storeAtIndex indexStop?
  rw [Memory.writeSlice_eq]
  cases Memory.blockStop? machine.index.toNat data.length <;> simp [Ends]

/-- Drawing a sprite ends as the stop of its block says. -/
theorem drawSprite_ends
    (x y : Register)
    (rows : UInt8) :
    machine.Ends (machine.drawSprite x y rows) (machine.indexStop? rows.toNat) := by
  unfold drawSprite indexStop?
  rw [Memory.slice_eq]
  cases Memory.blockStop? machine.index.toNat rows.toNat <;> simp [Ends]

/-- Up to a register there are as many values as its number and one more. -/
theorem registersUpTo_length
    (last : Register) :
    (machine.registersUpTo last).length = last.val + 1 := by
  have bound := last.isLt
  simp only [registersUpTo, List.length_take, Vector.length_toList]
  omega

/-- Loading registers ends as the stop of its block says, in either reading. -/
theorem loadRegisters_ends
    (x : Register) :
    machine.Ends (machine.execute (.loadRegisters x)) (machine.indexStop? (x.val + 1)) := by
  unfold execute
  cases semantics : machine.semantics with
  | referenceExact =>
      simpa only [registersUpTo_length] using
        machine.storeAtIndex_ends (machine.registersUpTo x)
  | corrected =>
      unfold indexStop?
      simp only [Memory.slice_eq]
      cases Memory.blockStop? machine.index.toNat (x.val + 1) <;> simp [Ends]

/-- Every instruction ends at its stop with the machine as it was, or succeeds. -/
theorem execute_ends
    (instruction : Instruction) :
    machine.Ends (machine.execute instruction) (machine.stop? instruction) := by
  cases instruction with
  | returnFromCall => exact machine.popReturn_ends
  | call address => exact machine.pushCall_ends address
  | skipIfKeyDown x => exact machine.skipIfKey_ends x true
  | skipIfKeyUp x => exact machine.skipIfKey_ends x false
  | draw x y rows => exact machine.drawSprite_ends x y rows
  | storeDigits x => exact machine.storeAtIndex_ends (decimalDigits (machine.register x))
  | storeRegisters x =>
      have ends := machine.storeAtIndex_ends (machine.registersUpTo x)
      rwa [registersUpTo_length] at ends
  | loadRegisters x => exact machine.loadRegisters_ends x
  | copy x y =>
      simp only [execute, stop?, Ends]
      cases machine.semantics <;> rfl
  | jumpOffset address =>
      simp only [execute, stop?, Ends]
      cases machine.semantics <;> rfl
  | waitForKey x =>
      simp only [execute, awaitKey, stop?, Ends]
      cases machine.keypad.firstDown? <;> rfl
  | _ => rfl

/-- Why a step stops: the word lies outside memory, or its instruction stops. -/
def stepStop? : Option Stop :=
  match machine.memory.readWord machine.pc.toNat with
  | .error stop => some stop
  | .ok word => (Instruction.decode? word).bind machine.stop?

/-- Moving past the word at `pc` does not change why an instruction stops. -/
theorem stop?_fetched
    (word : UInt16)
    (instruction : Instruction) :
    (machine.fetched word).stop? instruction = machine.stop? instruction := by
  cases instruction <;> rfl

variable {machine}

/-- A step that stops reports the stop and leaves the machine as it was. -/
theorem step_of_stop
    {stop : Stop}
    (stops : machine.stepStop? = some stop) :
    machine.step.result = .error stop ∧ machine.step.state = machine := by
  unfold stepStop? at stops
  cases fetch : machine.memory.readWord machine.pc.toNat with
  | error outside =>
      simp only [fetch, Option.some.injEq] at stops
      subst outside
      simp [step, fetch]
  | ok word =>
      simp only [fetch] at stops
      cases decoded : Instruction.decode? word with
      | none =>
          simp [decoded] at stops
      | some instruction =>
          simp only [decoded, Option.bind_some] at stops
          have ends := (machine.fetched word).execute_ends instruction
          rw [stop?_fetched, stops] at ends
          have failed :
              (machine.fetched word).execute instruction =
                Reply.failed (machine.fetched word) stop :=
            ends
          simp only [step, fetch, decoded, failed, Reply.failed_result, Reply.failed_state,
            true_and]
          -- Putting back `pc` and the last word undoes all that the fetch changed.
          rfl

/-- A step on a word that names no operation moves past the word. -/
theorem step_of_undefined
    {word : UInt16}
    (fetch : machine.memory.readWord machine.pc.toNat = .ok word)
    (undefined : Instruction.decode? word = none) :
    machine.step.result = .ok () ∧ machine.step.state = machine.fetched word := by
  simp [step, fetch, undefined]

/-- A step on an instruction that does not stop executes it past the word. -/
theorem step_of_runs
    {word : UInt16}
    {instruction : Instruction}
    (fetch : machine.memory.readWord machine.pc.toNat = .ok word)
    (decoded : Instruction.decode? word = some instruction)
    (runs : machine.stop? instruction = none) :
    machine.step.result = .ok () ∧
      machine.step.state = ((machine.fetched word).execute instruction).state := by
  have ends := (machine.fetched word).execute_ends instruction
  rw [stop?_fetched, runs] at ends
  have succeeded : ((machine.fetched word).execute instruction).result = .ok () :=
    ends
  simp [step, fetch, decoded, succeeded]

/-- Everything a step can do: stop, move past an undefined word, or execute. -/
theorem step_cases
    (machine : Machine) :
    (∃ stop, machine.stepStop? = some stop ∧
      machine.step.result = .error stop ∧ machine.step.state = machine) ∨
    (∃ word, machine.memory.readWord machine.pc.toNat = .ok word ∧
      machine.stepStop? = none ∧ Instruction.decode? word = none ∧
      machine.step.result = .ok () ∧ machine.step.state = machine.fetched word) ∨
    (∃ word instruction, machine.memory.readWord machine.pc.toNat = .ok word ∧
      machine.stepStop? = none ∧ Instruction.decode? word = some instruction ∧
      machine.stop? instruction = none ∧ machine.step.result = .ok () ∧
      machine.step.state = ((machine.fetched word).execute instruction).state) := by
  cases stops : machine.stepStop? with
  | some stop =>
      exact .inl ⟨stop, rfl, step_of_stop stops⟩
  | none =>
      unfold stepStop? at stops
      cases fetch : machine.memory.readWord machine.pc.toNat with
      | error outside =>
          simp [fetch] at stops
      | ok word =>
          simp only [fetch] at stops
          cases decoded : Instruction.decode? word with
          | none =>
              exact .inr (.inl ⟨word, rfl, rfl, decoded, step_of_undefined fetch decoded⟩)
          | some instruction =>
              simp only [decoded, Option.bind_some] at stops
              exact .inr (.inr
                ⟨word, instruction, rfl, rfl, decoded, stops, step_of_runs fetch decoded stops⟩)

/-- A step fails with a stop exactly when that is its stop. -/
theorem step_result_eq_error_iff
    {stop : Stop} :
    machine.step.result = .error stop ↔ machine.stepStop? = some stop := by
  rcases machine.step_cases with
    ⟨found, stops, failed, -⟩ | ⟨word, -, runs, -, succeeded, -⟩ |
      ⟨word, instruction, -, runs, -, -, succeeded, -⟩
  · simp [stops, failed]
  · simp [runs, succeeded]
  · simp [runs, succeeded]

/-- An instruction on which a step succeeds does not stop. -/
theorem stop?_eq_none_of_succeeded
    {word : UInt16}
    {instruction : Instruction}
    (fetch : machine.memory.readWord machine.pc.toNat = .ok word)
    (decoded : Instruction.decode? word = some instruction)
    (succeeded : machine.step.result = .ok ()) :
    machine.stop? instruction = none := by
  cases stops : machine.stop? instruction with
  | none =>
      rfl
  | some stop =>
      have failed : machine.step.result = .error stop :=
        step_result_eq_error_iff.mpr (by simp [stepStop?, fetch, decoded, stops])
      rw [succeeded] at failed
      cases failed

/-- A step that succeeds on an instruction executes it past the word. -/
theorem step_state_of_succeeded
    {word : UInt16}
    {instruction : Instruction}
    (fetch : machine.memory.readWord machine.pc.toNat = .ok word)
    (decoded : Instruction.decode? word = some instruction)
    (succeeded : machine.step.result = .ok ()) :
    machine.step.state = ((machine.fetched word).execute instruction).state :=
  (step_of_runs fetch decoded (stop?_eq_none_of_succeeded fetch decoded succeeded)).2

/-- A step that faults leaves the whole machine as it was. -/
theorem step_state_of_fault
    (machine : Machine)
    (cause : Fault)
    (faulted : machine.step.result = .error (.fault cause)) :
    machine.step.state = machine :=
  (step_of_stop (step_result_eq_error_iff.mp faulted)).2

/-- A machine at power-on with a program in memory. -/
def loaded
    (semantics : Semantics)
    (program : List UInt8) :
    Machine :=
  ((powerOn semantics (RandomStream.ofSeed 0)).loadProgram program).state

/-- A machine with nothing in memory but a program at its start. -/
def bare
    (semantics : Semantics)
    (program : List UInt8) :
    Machine :=
  { powerOn semantics (RandomStream.ofSeed 0) with
    memory := Memory.blank.fill 0x000 program
    pc := 0x000 }

/-- A machine about to store all registers where six bytes of memory are left. -/
def storingPastEnd : Machine :=
  { loaded .corrected [0xFF, 0x55] with
    registers := Vector.replicate 16 0xAA
    index := 0xFFA
    lastWord := 0x6001 }

/-- A store that finds room for six registers only stores none of them. -/
theorem storingPastEnd_step :
    storingPastEnd.step.result = .error (.fault (.memoryOutOfRange 0x1000)) ∧
      storingPastEnd.step.state = storingPastEnd := by
  have faulted :
      storingPastEnd.step.result = .error (.fault (.memoryOutOfRange 0x1000)) :=
    step_result_eq_error_iff.mpr (by decide +kernel)
  exact ⟨faulted, step_state_of_fault storingPastEnd _ faulted⟩

end Chip8.Machine
