import Chip8.Proofs.Machine.Stops

namespace Chip8

/-!
# What instructions write

Each instruction writes a few components of the machine.  The table of write
sets is checked once against execution; that a component outlives a step is
then read off the table.
-/

/-- A component of the machine. -/
inductive Component where
  | memory
  | registers
  | stack
  | sp
  | pc
  | index
  | delayTimer
  | soundTimer
  | lastWord
  | screen
  | keypad
  | semantics
  | random
  deriving DecidableEq

/-- The components that an instruction may write under a semantics. -/
def Instruction.writes
    (semantics : Semantics) :
    Instruction → List Component
  | .clearScreen => [.screen]
  | .returnFromCall => [.sp, .pc]
  | .jump _ => [.pc]
  | .call _ => [.stack, .sp, .pc]
  | .skipIfEqualByte _ _
  | .skipIfUnequalByte _ _
  | .skipIfEqual _ _
  | .skipIfUnequal _ _
  | .skipIfKeyDown _
  | .skipIfKeyUp _ => [.pc]
  | .loadByte _ _
  | .addByte _ _
  | .or _ _
  | .and _ _
  | .xor _ _
  | .add _ _
  | .subtract _ _
  | .shiftRight _
  | .subtractFrom _ _
  | .shiftLeft _
  | .readDelay _ => [.registers]
  | .copy _ _ =>
      match semantics with
      | .corrected => [.registers]
      | .referenceExact => []
  | .loadIndex _
  | .addToIndex _
  | .glyphAddress _ => [.index]
  | .jumpOffset _ =>
      match semantics with
      | .corrected => [.pc]
      | .referenceExact => [.index]
  | .random _ _ => [.registers, .random]
  | .draw _ _ _ => [.registers, .screen]
  | .waitForKey _ => [.registers, .pc]
  | .setDelay _ => [.delayTimer]
  | .setSound _ => [.soundTimer]
  | .storeDigits _
  | .storeRegisters _ => [.memory]
  | .loadRegisters _ =>
      match semantics with
      | .corrected => [.registers]
      | .referenceExact => [.memory]

namespace Machine

/-- The machine with the listed components taken from another one. -/
def taking
    (machine other : Machine)
    (written : List Component) :
    Machine where
  memory :=
    if .memory ∈ written then other.memory else machine.memory
  registers :=
    if .registers ∈ written then other.registers else machine.registers
  stack :=
    if .stack ∈ written then other.stack else machine.stack
  sp :=
    if .sp ∈ written then other.sp else machine.sp
  pc :=
    if .pc ∈ written then other.pc else machine.pc
  index :=
    if .index ∈ written then other.index else machine.index
  delayTimer :=
    if .delayTimer ∈ written then other.delayTimer else machine.delayTimer
  soundTimer :=
    if .soundTimer ∈ written then other.soundTimer else machine.soundTimer
  lastWord :=
    if .lastWord ∈ written then other.lastWord else machine.lastWord
  screen :=
    if .screen ∈ written then other.screen else machine.screen
  keypad :=
    if .keypad ∈ written then other.keypad else machine.keypad
  semantics :=
    if .semantics ∈ written then other.semantics else machine.semantics
  random :=
    if .random ∈ written then other.random else machine.random

/-- Only the listed components may differ. -/
def ChangesOnly
    (before after : Machine)
    (written : List Component) :
    Prop :=
  after = before.taking after written

namespace ChangesOnly

variable {before after : Machine} {written : List Component}

/-- The stack depth stays as it is when it is not among what is written. -/
theorem sp_eq
    (changes : before.ChangesOnly after written)
    (untouched : .sp ∉ written) :
    after.sp = before.sp :=
  (congrArg Machine.sp changes).trans (if_neg untouched)

/-- The program counter stays as it is when it is not among what is written. -/
theorem pc_eq
    (changes : before.ChangesOnly after written)
    (untouched : .pc ∉ written) :
    after.pc = before.pc :=
  (congrArg Machine.pc changes).trans (if_neg untouched)

/-- The stack stays as it is when it is not among what is written. -/
theorem stack_eq
    (changes : before.ChangesOnly after written)
    (untouched : .stack ∉ written) :
    after.stack = before.stack :=
  (congrArg Machine.stack changes).trans (if_neg untouched)

/-- The memory stays as it is when it is not among what is written. -/
theorem memory_eq
    (changes : before.ChangesOnly after written)
    (untouched : .memory ∉ written) :
    after.memory = before.memory :=
  (congrArg Machine.memory changes).trans (if_neg untouched)

/-- The registers stay as they are when they are not among what is written. -/
theorem registers_eq
    (changes : before.ChangesOnly after written)
    (untouched : .registers ∉ written) :
    after.registers = before.registers :=
  (congrArg Machine.registers changes).trans (if_neg untouched)

/-- The index stays as it is when it is not among what is written. -/
theorem index_eq
    (changes : before.ChangesOnly after written)
    (untouched : .index ∉ written) :
    after.index = before.index :=
  (congrArg Machine.index changes).trans (if_neg untouched)

/-- The screen stays as it is when it is not among what is written. -/
theorem screen_eq
    (changes : before.ChangesOnly after written)
    (untouched : .screen ∉ written) :
    after.screen = before.screen :=
  (congrArg Machine.screen changes).trans (if_neg untouched)

/-- The reading stays as it is when it is not among what is written. -/
theorem semantics_eq
    (changes : before.ChangesOnly after written)
    (untouched : .semantics ∉ written) :
    after.semantics = before.semantics :=
  (congrArg Machine.semantics changes).trans (if_neg untouched)

end ChangesOnly

variable (machine : Machine)

/-- What changes nothing changes nothing but what is listed. -/
theorem changesOnly_refl
    (written : List Component) :
    machine.ChangesOnly machine written := by
  simp only [ChangesOnly, taking, ite_self]

/-- A skip changes the program counter only. -/
theorem skipIf_changesOnly
    (condition : Bool) :
    machine.ChangesOnly (machine.skipIf condition) [.pc] := by
  rw [skipIf_eq]
  rfl

/-- A return changes the stack depth and the program counter only. -/
theorem popReturn_changesOnly :
    machine.ChangesOnly machine.popReturn.state [.sp, .pc] := by
  unfold popReturn
  split
  next =>
    exact machine.changesOnly_refl _
  next =>
    split <;> rfl

/-- A call changes the stack, its depth and the program counter only. -/
theorem pushCall_changesOnly
    (address : UInt16) :
    machine.ChangesOnly (machine.pushCall address).state [.stack, .sp, .pc] := by
  unfold pushCall
  split <;> rfl

/-- Storing at the index changes the memory only. -/
theorem storeAtIndex_changesOnly
    (data : List UInt8) :
    machine.ChangesOnly (machine.storeAtIndex data).state [.memory] := by
  unfold storeAtIndex
  split <;> rfl

/-- Drawing a sprite changes the screen and the registers, for the flag, only. -/
theorem drawSprite_changesOnly
    (x y : Register)
    (rows : UInt8) :
    machine.ChangesOnly (machine.drawSprite x y rows).state [.registers, .screen] := by
  unfold drawSprite
  split <;> rfl

/-- A skip on a key changes the program counter only. -/
theorem skipIfKey_changesOnly
    (x : Register)
    (position : Bool) :
    machine.ChangesOnly (machine.skipIfKey x position).state [.pc] := by
  unfold skipIfKey
  split
  next =>
    exact machine.skipIf_changesOnly _
  next =>
    exact machine.changesOnly_refl _

/-- Waiting for a key changes the registers and the program counter only. -/
theorem awaitKey_changesOnly
    (x : Register) :
    machine.ChangesOnly (machine.awaitKey x).state [.registers, .pc] := by
  unfold awaitKey
  split <;> rfl

/-- Loading registers changes what its reading writes: the memory or the registers. -/
theorem loadRegisters_changesOnly
    (x : Register) :
    machine.ChangesOnly (machine.execute (.loadRegisters x)).state
      (Instruction.writes machine.semantics (.loadRegisters x)) := by
  unfold execute Instruction.writes
  cases machine.semantics with
  | referenceExact =>
      exact machine.storeAtIndex_changesOnly _
  | corrected =>
      dsimp only
      split <;> rfl

/-- Executing an instruction changes nothing that it does not list as written. -/
theorem execute_changesOnly
    (instruction : Instruction) :
    machine.ChangesOnly (machine.execute instruction).state
      (instruction.writes machine.semantics) := by
  cases instruction with
  | returnFromCall => exact machine.popReturn_changesOnly
  | call address => exact machine.pushCall_changesOnly address
  | skipIfEqualByte x byte => exact machine.skipIf_changesOnly _
  | skipIfUnequalByte x byte => exact machine.skipIf_changesOnly _
  | skipIfEqual x y => exact machine.skipIf_changesOnly _
  | skipIfUnequal x y => exact machine.skipIf_changesOnly _
  | skipIfKeyDown x => exact machine.skipIfKey_changesOnly x true
  | skipIfKeyUp x => exact machine.skipIfKey_changesOnly x false
  | waitForKey x => exact machine.awaitKey_changesOnly x
  | draw x y rows => exact machine.drawSprite_changesOnly x y rows
  | storeDigits x => exact machine.storeAtIndex_changesOnly _
  | storeRegisters x => exact machine.storeAtIndex_changesOnly _
  | loadRegisters x => exact machine.loadRegisters_changesOnly x
  | copy x y =>
      unfold execute Instruction.writes
      cases machine.semantics <;> rfl
  | jumpOffset address =>
      -- The semantics is taken apart inside the machine, whose other components stay as they are.
      rcases machine with ⟨_, _, _, _, _, _, _, _, _, _, _, semantics, _⟩
      cases semantics <;> rfl
  | _ => rfl

/-- No instruction writes the semantics. -/
theorem semantics_not_mem_writes
    (semantics : Semantics)
    (instruction : Instruction) :
    .semantics ∉ instruction.writes semantics := by
  cases instruction <;> cases semantics <;> simp [Instruction.writes]

/-- No instruction changes the reading of the instructions. -/
theorem execute_semantics
    (instruction : Instruction) :
    (machine.execute instruction).state.semantics = machine.semantics :=
  (machine.execute_changesOnly instruction).semantics_eq
    (semantics_not_mem_writes machine.semantics instruction)

/-- Fetching a word does not change the reading of the instructions. -/
@[simp] theorem fetched_semantics
    (word : UInt16) :
    (machine.fetched word).semantics = machine.semantics := by
  simp only [fetched]

/-- No step changes the semantics. -/
theorem step_semantics :
    machine.step.state.semantics = machine.semantics := by
  rcases machine.step_cases with
    ⟨_, _, _, state⟩ | ⟨word, _, _, _, _, state⟩ | ⟨word, instruction, _, _, _, _, _, state⟩
  · rw [state]
  · rw [state, fetched_semantics]
  · rw [state, execute_semantics, fetched_semantics]

end Machine

end Chip8
