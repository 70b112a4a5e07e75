import Chip8.Proofs.Machine.Effects

namespace Chip8

/-!
# What instructions read

The values that an instruction leaves in the components it writes depend on a
few components only.  The table of read sets is checked once against execution:
machines that agree on what an instruction reads agree afterwards on what it
writes.  Together with the table of write sets this says when a difference
between two machines stays where it is, through one step.
-/

/-- The values that a component can have. -/
abbrev Component.Content : Component → Type
  | .memory => Memory
  | .registers => Vector UInt8 16
  | .stack => Vector UInt16 stackDepth
  | .sp => UInt8
  | .pc => UInt16
  | .index => UInt16
  | .delayTimer => UInt8
  | .soundTimer => UInt8
  | .lastWord => UInt16
  | .screen => Screen
  | .keypad => Keypad
  | .semantics => Semantics
  | .random => RandomStream

/-- The components that decide what an instruction leaves in those it writes. -/
def Instruction.reads : Instruction → List Component
  | .clearScreen
  | .jump _
  | .loadIndex _ => []
  | .returnFromCall => [.sp, .stack, .pc]
  | .call _ => [.sp, .stack, .pc]
  | .skipIfEqualByte _ _
  | .skipIfUnequalByte _ _
  | .skipIfEqual _ _
  | .skipIfUnequal _ _ => [.registers, .pc]
  | .skipIfKeyDown _
  | .skipIfKeyUp _
  | .waitForKey _ => [.registers, .keypad, .pc]
  | .loadByte _ _
  | .addByte _ _
  | .or _ _
  | .and _ _
  | .xor _ _
  | .add _ _
  | .subtract _ _
  | .shiftRight _
  | .subtractFrom _ _
  | .shiftLeft _
  | .setDelay _
  | .setSound _
  | .glyphAddress _ => [.registers]
  | .copy _ _
  | .jumpOffset _ => [.semantics, .registers]
  | .readDelay _ => [.registers, .delayTimer]
  | .addToIndex _ => [.registers, .index]
  | .random _ _ => [.registers, .random]
  | .draw _ _ _ => [.registers, .memory, .index, .screen]
  | .storeDigits _
  | .storeRegisters _ => [.registers, .memory, .index]
  | .loadRegisters _ => [.semantics, .registers, .memory, .index]

namespace Machine

/-- The value of a component. -/
def content
    (machine : Machine) :
    (component : Component) → component.Content
  | .memory => machine.memory
  | .registers => machine.registers
  | .stack => machine.stack
  | .sp => machine.sp
  | .pc => machine.pc
  | .index => machine.index
  | .delayTimer => machine.delayTimer
  | .soundTimer => machine.soundTimer
  | .lastWord => machine.lastWord
  | .screen => machine.screen
  | .keypad => machine.keypad
  | .semantics => machine.semantics
  | .random => machine.random

/-- Two machines have the same value in each of the listed components. -/
def AgreesOn
    (first second : Machine)
    (shared : List Component) :
    Prop :=
  ∀ component ∈ shared, first.content component = second.content component

/-- Two machines have the same value in every component but the listed ones. -/
def AgreesOutside
    (first second : Machine)
    (hidden : List Component) :
    Prop :=
  ∀ component ∉ hidden, first.content component = second.content component

/-- What does not change keeps its value. -/
theorem ChangesOnly.content_eq
    {before after : Machine}
    {written : List Component}
    (changes : before.ChangesOnly after written)
    {component : Component}
    (untouched : component ∉ written) :
    after.content component = before.content component := by
  rw [changes]
  cases component <;> exact if_neg untouched

namespace AgreesOutside

variable {first second third : Machine} {hidden more : List Component}

/-- A machine agrees with itself. -/
theorem refl
    (machine : Machine)
    (hidden : List Component) :
    machine.AgreesOutside machine hidden :=
  fun _ _ => rfl

/-- Agreement outside some components goes both ways. -/
theorem symm
    (agrees : first.AgreesOutside second hidden) :
    second.AgreesOutside first hidden :=
  fun component seen => (agrees component seen).symm

/-- Machines that agree with a third one agree with one another. -/
theorem trans
    (agrees : first.AgreesOutside second hidden)
    (further : second.AgreesOutside third hidden) :
    first.AgreesOutside third hidden :=
  fun component seen => (agrees component seen).trans (further component seen)

/-- Machines that agree outside some components agree outside more. -/
theorem mono
    (agrees : first.AgreesOutside second hidden)
    (within : hidden ⊆ more) :
    first.AgreesOutside second more :=
  fun component seen => agrees component fun member => seen (within member)

/-- What two machines write separately adds to what may differ between them. -/
theorem after_writes
    {firstAfter secondAfter : Machine}
    {written : List Component}
    (agrees : first.AgreesOutside second hidden)
    (firstWrites : firstAfter.AgreesOutside first written)
    (secondWrites : secondAfter.AgreesOutside second written) :
    firstAfter.AgreesOutside secondAfter (hidden ++ written) :=
  (firstWrites.mono (List.subset_append_right _ _)).trans
    ((agrees.mono (List.subset_append_left _ _)).trans
      (secondWrites.symm.mono (List.subset_append_right _ _)))

/-- Machines agree on all of a list that none of the components where they may differ is in. -/
theorem agreesOn
    {shared : List Component}
    (agrees : first.AgreesOutside second hidden)
    (apart : ∀ component ∈ shared, component ∉ hidden) :
    first.AgreesOn second shared :=
  fun component member => agrees component (apart component member)

end AgreesOutside

/-- A machine agrees with the one before outside what was written. -/
theorem ChangesOnly.agreesOutside
    {before after : Machine}
    {written : List Component}
    (changes : before.ChangesOnly after written) :
    after.AgreesOutside before written :=
  fun _ untouched => changes.content_eq untouched

variable {first second : Machine} {instruction : Instruction}

/-- What an instruction writes depends on the semantics only where it reads the semantics. -/
theorem writes_eq_of_reads
    (agrees : first.AgreesOn second instruction.reads) :
    instruction.writes first.semantics = instruction.writes second.semantics := by
  cases instruction with
  | copy x y | jumpOffset address | loadRegisters x =>
      have semantics : first.semantics = second.semantics :=
        agrees .semantics (by simp [Instruction.reads])
      rw [semantics]
  | _ => rfl

/-- All machines agree on nothing. -/
@[simp] theorem agreesOn_nil :
    first.AgreesOn second [] := by
  simp [AgreesOn]

/-- Machines agree on a list of components when they agree on the first one and on the rest. -/
@[simp] theorem agreesOn_cons
    {component : Component}
    {rest : List Component} :
    first.AgreesOn second (component :: rest) ↔
      first.content component = second.content component ∧ first.AgreesOn second rest := by
  simp [AgreesOn]

/-- Machines with the same registers have the same value in each. -/
theorem register_eq
    (registers : first.registers = second.registers)
    (x : Register) :
    first.register x = second.register x := by
  rw [register, register, registers]

/-- Setting a register and the flag alike keeps the registers alike. -/
theorem setFlagged_registers_eq
    (registers : first.registers = second.registers)
    (x : Register)
    (value flag : UInt8) :
    (first.setFlagged x value flag).registers = (second.setFlagged x value flag).registers := by
  simp only [setFlagged, setRegister, registers]

/-- A return acts on what it reads: the stack, its depth and the program counter. -/
theorem popReturn_agreesOn
    (agrees : first.AgreesOn second [.sp, .stack, .pc]) :
    first.popReturn.state.AgreesOn second.popReturn.state [.sp, .pc] := by
  simp only [agreesOn_cons, agreesOn_nil, and_true, content] at agrees ⊢
  obtain ⟨sp, stack, pc⟩ := agrees
  unfold popReturn
  rw [sp, stack]
  split
  next =>
    exact ⟨sp, pc⟩
  next =>
    split
    next => exact ⟨rfl, rfl⟩
    next => exact ⟨sp, pc⟩

/-- A call acts on what it reads: the stack, its depth and the program counter. -/
theorem pushCall_agreesOn
    (agrees : first.AgreesOn second [.sp, .stack, .pc])
    (address : UInt16) :
    (first.pushCall address).state.AgreesOn (second.pushCall address).state
      [.stack, .sp, .pc] := by
  simp only [agreesOn_cons, agreesOn_nil, and_true, content] at agrees ⊢
  obtain ⟨sp, stack, pc⟩ := agrees
  unfold pushCall
  by_cases free : second.sp.toNat < stackDepth
  · have free' : first.sp.toNat < stackDepth := sp ▸ free
    rw [dif_pos free, dif_pos free']
    simp only [Reply.done_state, sp, stack, pc, and_self]
  · have full : ¬first.sp.toNat < stackDepth := sp ▸ free
    rw [dif_neg free, dif_neg full]
    exact ⟨stack, sp, pc⟩

/-- A skip acts on the program counter. -/
theorem skipIf_pc_eq
    (pc : first.pc = second.pc)
    (condition : Bool) :
    (first.skipIf condition).pc = (second.skipIf condition).pc := by
  rw [skipIf_eq, skipIf_eq, pc]

/-- A skip on a key acts on the registers, the keypad and the program counter. -/
theorem skipIfKey_agreesOn
    (agrees : first.AgreesOn second [.registers, .keypad, .pc])
    (x : Register)
    (position : Bool) :
    (first.skipIfKey x position).state.AgreesOn (second.skipIfKey x position).state [.pc] := by
  simp only [agreesOn_cons, agreesOn_nil, and_true, content] at agrees ⊢
  obtain ⟨registers, keypad, pc⟩ := agrees
  unfold skipIfKey
  rw [register_eq registers, keypad]
  split
  next => exact skipIf_pc_eq pc _
  next => exact pc

/-- Waiting for a key acts on the registers, the keypad and the program counter. -/
theorem awaitKey_agreesOn
    (agrees : first.AgreesOn second [.registers, .keypad, .pc])
    (x : Register) :
    (first.awaitKey x).state.AgreesOn (second.awaitKey x).state [.registers, .pc] := by
  simp only [agreesOn_cons, agreesOn_nil, and_true, content] at agrees ⊢
  obtain ⟨registers, keypad, pc⟩ := agrees
  unfold awaitKey
  rw [keypad]
  split
  next => exact ⟨by simp only [Reply.done_state, setRegister, registers], pc⟩
  next => exact ⟨registers, by simp only [Reply.announcing_state, Reply.done_state, pc]⟩

/-- Storing at the index acts on the memory and the index. -/
theorem storeAtIndex_agreesOn
    (agrees : first.AgreesOn second [.memory, .index])
    (data : List UInt8) :
    (first.storeAtIndex data).state.AgreesOn (second.storeAtIndex data).state [.memory] := by
  simp only [agreesOn_cons, agreesOn_nil, and_true, content] at agrees ⊢
  obtain ⟨memory, index⟩ := agrees
  unfold storeAtIndex
  rw [memory, index]
  split
  next => rfl
  next => exact memory

/-- Drawing a sprite acts on the registers, the memory, the index and the screen. -/
theorem drawSprite_agreesOn
    (agrees : first.AgreesOn second [.registers, .memory, .index, .screen])
    (x y : Register)
    (rows : UInt8) :
    (first.drawSprite x y rows).state.AgreesOn (second.drawSprite x y rows).state
      [.registers, .screen] := by
  simp only [agreesOn_cons, agreesOn_nil, and_true, content] at agrees ⊢
  obtain ⟨registers, memory, index, screen⟩ := agrees
  unfold drawSprite
  rw [memory, index, screen, register_eq registers, register_eq registers]
  split
  next => exact ⟨by simp only [Reply.announcing_state, Reply.done_state, setRegister, registers], rfl⟩
  next => exact ⟨registers, screen⟩

/-- Loading registers acts on its reading, the registers, the memory and the index. -/
theorem loadRegisters_agreesOn
    (agrees : first.AgreesOn second [.semantics, .registers, .memory, .index])
    (x : Register) :
    (first.execute (.loadRegisters x)).state.AgreesOn (second.execute (.loadRegisters x)).state
      (Instruction.writes first.semantics (.loadRegisters x)) := by
  simp only [agreesOn_cons, agreesOn_nil, and_true, content] at agrees
  obtain ⟨semantics, registers, memory, index⟩ := agrees
  unfold execute Instruction.writes
  rw [semantics]
  cases second.semantics with
  | referenceExact =>
      have data : first.registersUpTo x = second.registersUpTo x := by
        rw [registersUpTo, registersUpTo, registers]
      dsimp only
      rw [data]
      exact storeAtIndex_agreesOn (by simpa [content] using ⟨memory, index⟩) _
  | corrected =>
      dsimp only
      rw [memory, index]
      simp only [agreesOn_cons, agreesOn_nil, and_true, content]
      split
      next => simp only [Reply.done_state, setRegisters, register_eq registers]
      next => exact registers

/-- Machines that agree on what an instruction reads agree afterwards on what it writes. -/
theorem execute_agreesOn_writes
    (agrees : first.AgreesOn second instruction.reads) :
    (first.execute instruction).state.AgreesOn (second.execute instruction).state
      (instruction.writes first.semantics) := by
  cases instruction with
  | returnFromCall => exact popReturn_agreesOn agrees
  | call address => exact pushCall_agreesOn agrees address
  | skipIfKeyDown x => exact skipIfKey_agreesOn agrees x true
  | skipIfKeyUp x => exact skipIfKey_agreesOn agrees x false
  | waitForKey x => exact awaitKey_agreesOn agrees x
  | draw x y rows => exact drawSprite_agreesOn agrees x y rows
  | loadRegisters x => exact loadRegisters_agreesOn agrees x
  | storeDigits x =>
      obtain ⟨registers, located⟩ := agreesOn_cons.mp agrees
      rw [execute, execute, register_eq registers]
      exact storeAtIndex_agreesOn located _
  | storeRegisters x =>
      obtain ⟨registers, located⟩ := agreesOn_cons.mp agrees
      have data : first.registersUpTo x = second.registersUpTo x :=
        congrArg (fun values : Vector UInt8 16 => values.toList.take (x.val + 1)) registers
      rw [execute, execute, data]
      exact storeAtIndex_agreesOn located _
  -- What a copy and an offset jump read and write depends on the reading.
  | copy x y =>
      simp only [Instruction.reads, agreesOn_cons, agreesOn_nil, and_true, content] at agrees
      obtain ⟨semantics, registers⟩ := agrees
      unfold execute Instruction.writes
      rw [semantics]
      cases second.semantics with
      | referenceExact => exact agreesOn_nil
      | corrected => simp [content, setRegister, register, registers]
  | jumpOffset address =>
      simp only [Instruction.reads, agreesOn_cons, agreesOn_nil, and_true, content] at agrees
      obtain ⟨semantics, registers⟩ := agrees
      unfold execute Instruction.writes
      rw [semantics, register_eq registers]
      cases second.semantics with
      | referenceExact => simp [content]
      | corrected => simp [content]
  | skipIfEqualByte x byte | skipIfUnequalByte x byte | skipIfEqual x y | skipIfUnequal x y =>
      simp only [Instruction.reads, agreesOn_cons, agreesOn_nil, and_true, content] at agrees
      simp only [Instruction.writes, agreesOn_cons, agreesOn_nil, and_true, content, execute,
        register_eq agrees.1]
      exact skipIf_pc_eq agrees.2 _
  | add x y | subtract x y | subtractFrom x y =>
      simp only [Instruction.reads, agreesOn_cons, agreesOn_nil, and_true, content] at agrees
      simp only [Instruction.writes, agreesOn_cons, agreesOn_nil, and_true, content, execute,
        Reply.done_state]
      rw [register_eq agrees x, register_eq agrees y]
      exact setFlagged_registers_eq agrees x _ _
  | _ =>
      simp only [Instruction.reads, agreesOn_cons, agreesOn_nil, and_true, content] at agrees
      simp only [Instruction.writes, agreesOn_cons, agreesOn_nil, and_true, content, execute,
        setRegister, setFlagged, register, Reply.done_state, agrees]

/-- An instruction that reads nothing of a difference between two machines does not spread it. -/
theorem AgreesOutside.execute
    {hidden : List Component}
    (agrees : first.AgreesOutside second hidden)
    (unread : ∀ component ∈ instruction.reads, component ∉ hidden) :
    (first.execute instruction).state.AgreesOutside (second.execute instruction).state hidden := by
  have read := agrees.agreesOn unread
  intro component seen
  by_cases written : component ∈ instruction.writes first.semantics
  · exact execute_agreesOn_writes read component written
  · have untouched : component ∉ instruction.writes second.semantics :=
      writes_eq_of_reads read ▸ written
    rw [(first.execute_changesOnly instruction).content_eq written,
      (second.execute_changesOnly instruction).content_eq untouched]
    exact agrees component seen

/-- Fetching the same word keeps machines alike outside what is hidden. -/
theorem AgreesOutside.fetched
    {hidden : List Component}
    (agrees : first.AgreesOutside second hidden)
    (address : .pc ∉ hidden)
    (word : UInt16) :
    (first.fetched word).AgreesOutside (second.fetched word) hidden := by
  have pc : first.pc = second.pc := agrees .pc address
  intro component seen
  cases component with
  | pc =>
      show first.pc + 2 = second.pc + 2
      rw [pc]
  | lastWord => rfl
  | _ => exact agrees _ seen

/-- The components that decide how a step ends. -/
def deciding : List Component :=
  [.memory, .pc, .sp, .index, .registers]

/-- Machines that agree on the deciding components stop on the same instructions, and alike. -/
theorem stop?_eq
    (agrees : first.AgreesOn second deciding)
    (instruction : Instruction) :
    first.stop? instruction = second.stop? instruction := by
  simp only [deciding, agreesOn_cons, agreesOn_nil, and_true, content] at agrees
  obtain ⟨-, -, sp, index, registers⟩ := agrees
  cases instruction <;>
    simp only [stop?, returnStop?, callStop?, keyStop?, indexStop?, sp, index,
      register_eq registers]

/-- A step ends in its stop or succeeds. -/
theorem step_result_eq
    (machine : Machine) :
    machine.step.result =
      match machine.stepStop? with
      | some stop => .error stop
      | none => .ok () := by
  rcases machine.step_cases with
    ⟨stop, stops, failed, -⟩ | ⟨word, -, runs, -, succeeded, -⟩ |
      ⟨word, instruction, -, runs, -, -, succeeded, -⟩
  · rw [stops, failed]
  · rw [runs, succeeded]
  · rw [runs, succeeded]

/-- Machines that agree on the deciding components take steps that end alike. -/
theorem step_result_eq_of_agreesOn
    (agrees : first.AgreesOn second deciding) :
    first.step.result = second.step.result := by
  have memory : first.memory = second.memory :=
    agrees .memory (by simp [deciding])
  have pc : first.pc = second.pc :=
    agrees .pc (by simp [deciding])
  have stops : first.stop? = second.stop? :=
    funext (stop?_eq agrees)
  rw [step_result_eq, step_result_eq, stepStop?, stepStop?, memory, pc, stops]

end Machine

end Chip8
