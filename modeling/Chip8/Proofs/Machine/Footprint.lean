import Chip8.Proofs.Machine.Control
import Chip8.Proofs.Machine.Readings

namespace Chip8

/-!
# The footprint of a step

Every component of a machine is written by a few words only, and each of them
writes a part of it that the word names: a block at the index, one stack slot,
one register and the flag.  This module reads that part off the bits of the
word, and shows that a step which succeeds leaves everything else as it was and
goes on where the word says.
-/

namespace Word

/-- The word clears the screen, `0nE0`. -/
def IsScreenClear (word : UInt16) : Prop :=
  group word = 0x0 ∧ byte word = 0xE0

/-- The word sets the delay timer, `Fx15`. -/
def IsDelaySet (word : UInt16) : Prop :=
  group word = 0xF ∧ byte word = 0x15

/-- The word sets the sound timer, `Fx18`. -/
def IsSoundSet (word : UInt16) : Prop :=
  group word = 0xF ∧ byte word = 0x18

/--
The number of bytes at the index that a word writes: three for `Fx33`, `x + 1`
for `Fx55` and, under the exact reading, for `Fx65`, and none for any other word.
-/
def storeLength
    (semantics : Semantics)
    (word : UInt16) :
    Nat :=
  if group word = 0xF ∧ byte word = 0x33 then
    3
  else if group word = 0xF ∧
      (byte word = 0x55 ∨ byte word = 0x65 ∧ semantics = .referenceExact) then
    (x word).val + 1
  else
    0

/--
The word writes the register that it names first: `6xkk`, `7xkk`, `8xy1` to
`8xy7`, `8xyE`, `Cxkk`, `Fx07`, `Fx0A`, and `8xy0` under the corrected reading.
-/
def WritesX
    (semantics : Semantics)
    (word : UInt16) :
    Prop :=
  group word = 0x6 ∨ group word = 0x7 ∨
    (group word = 0x8 ∧
      (low word ∈ [0x1, 0x2, 0x3, 0x4, 0x5, 0x6, 0x7, 0xE] ∨
        low word = 0x0 ∧ semantics = .corrected)) ∨
    group word = 0xC ∨ (group word = 0xF ∧ (byte word = 0x07 ∨ byte word = 0x0A))

/-- The word writes the flag register: `8xy4` to `8xy7`, `8xyE` and `Dxyn`. -/
def WritesFlag (word : UInt16) : Prop :=
  (group word = 0x8 ∧ low word ∈ [0x4, 0x5, 0x6, 0x7, 0xE]) ∨ group word = 0xD

/-- The word may write a register, which for a corrected `Fx65` is any from `V0` to `Vx`. -/
def WritesRegister
    (semantics : Semantics)
    (word : UInt16)
    (register : Register) :
    Prop :=
  (WritesX semantics word ∧ register = x word) ∨
    (WritesFlag word ∧ register = 0xF) ∨
    (IsRegisterLoad word ∧ semantics = .corrected ∧ register ≤ x word)

/-- The word sets the index: `Annn`, `Fx1E`, `Fx29`, and `Bnnn` under the exact reading. -/
def WritesIndex
    (semantics : Semantics)
    (word : UInt16) :
    Prop :=
  group word = 0xA ∨ (IsOffsetJump word ∧ semantics = .referenceExact) ∨
    (group word = 0xF ∧ (byte word = 0x1E ∨ byte word = 0x29))

/-- The words that write a component under a semantics, the fetch apart. -/
def Writes
    (semantics : Semantics)
    (word : UInt16) :
    Component → Prop
  | .memory => 1 ≤ storeLength semantics word
  | .registers =>
      WritesX semantics word ∨ WritesFlag word ∨ (IsRegisterLoad word ∧ semantics = .corrected)
  | .stack => IsCall word
  | .sp => IsCall word ∨ IsReturn word
  | .pc => True
  | .index => WritesIndex semantics word
  | .delayTimer => IsDelaySet word
  | .soundTimer => IsSoundSet word
  | .screen => IsScreenClear word ∨ IsSprite word
  | .random => IsRandomDraw word
  | .lastWord
  | .keypad
  | .semantics => False

end Word

/-- What an instruction writes is written by the words that encode it. -/
theorem Instruction.Encodes.writes
    {word : UInt16}
    {instruction : Instruction}
    (encoded : instruction.Encodes word)
    {semantics : Semantics}
    {component : Component}
    (written : component ∈ instruction.writes semantics) :
    Word.Writes semantics word component := by
  cases instruction <;> cases semantics <;>
    simp only [Instruction.writes, List.mem_cons, List.not_mem_nil, or_false] at written <;>
    rcases written with rfl | rfl | rfl <;>
    simp only [Encodes] at encoded <;>
    simp [Word.Writes, Word.storeLength, Word.WritesX, Word.WritesFlag, Word.IsRegisterLoad,
      Word.IsCall, Word.IsReturn, Word.WritesIndex, Word.IsOffsetJump, Word.IsDelaySet,
      Word.IsSoundSet, Word.IsScreenClear, Word.IsSprite, Word.IsRandomDraw, encoded]

/-- Every key is up. -/
def Keypad.AllUp (keypad : Keypad) : Prop :=
  ∀ key (_ : key < keyCount), keypad.down[key] = false

/-- There is no lowest key that is down exactly when every key is up. -/
theorem Keypad.firstDown?_eq_none_iff
    {keypad : Keypad} :
    keypad.firstDown? = none ↔ keypad.AllUp := by
  simp only [firstDown?, AllUp, List.find?_eq_none, List.mem_finRange, Bool.not_eq_true,
    forall_const]
  exact Fin.forall_iff

namespace Machine

/-- The condition under which a word skips the next one holds. -/
inductive Skips
    (machine : Machine)
    (word : UInt16) :
    Prop where
  /-- The word is `3xkk`. -/
  | equalByte
      (group : Word.group word = 0x3)
      (same : machine.register (Word.x word) = Word.byte word)
  /-- The word is `4xkk`. -/
  | unequalByte
      (group : Word.group word = 0x4)
      (different : machine.register (Word.x word) ≠ Word.byte word)
  /-- The word is `5xy0`. -/
  | equal
      (group : Word.group word = 0x5)
      (same : machine.register (Word.x word) = machine.register (Word.y word))
  /-- The word is `9xy0`. -/
  | unequal
      (group : Word.group word = 0x9)
      (different : machine.register (Word.x word) ≠ machine.register (Word.y word))
  /-- The word is `Ex9E`. -/
  | keyDown
      (group : Word.group word = 0xE)
      (byte : Word.byte word = 0x9E)
      (down : machine.keypad.down[(machine.register (Word.x word)).toNat]? = some true)
  /-- The word is `ExA1`. -/
  | keyUp
      (group : Word.group word = 0xE)
      (byte : Word.byte word = 0xA1)
      (up : machine.keypad.down[(machine.register (Word.x word)).toNat]? = some false)

/-- Where a machine goes on after a step on a word. -/
structure Continues
    (before : Machine)
    (word : UInt16)
    (after : Machine) :
    Prop where
  /-- A jump, `1nnn`, and a call go to the address that they name. -/
  address :
    Word.group word = 0x1 ∨ Word.IsCall word →
    after.pc = Word.address word
  /-- A return goes to the address in the topmost slot. -/
  popped :
    Word.IsReturn word →
    before.stack[before.sp.toNat - 1]? = some after.pc
  offset :
    Word.IsOffsetJump word ∧ before.semantics = .corrected →
    after.pc.toNat = (before.register 0).toNat + (Word.address word).toNat
  waits :
    Word.IsKeyWait word ∧ before.keypad.AllUp →
    after.pc = before.pc
  skips :
    before.Skips word →
    after.pc.toNat = before.pc.toNat + 4
  next :
    ¬(Word.group word = 0x1 ∨ Word.IsCall word) →
    ¬Word.IsReturn word →
    ¬(Word.IsOffsetJump word ∧ before.semantics = .corrected) →
    ¬(Word.IsKeyWait word ∧ before.keypad.AllUp) →
    ¬before.Skips word →
    after.pc.toNat = before.pc.toNat + 2

/-- What a step on a word writes, component by component, and nothing more. -/
structure Footprint
    (before : Machine)
    (word : UInt16)
    (after : Machine) :
    Prop where
  lastWord :
    after.lastWord = word
  /-- What the word does not write keeps its value. -/
  kept :
    ∀ component,
      component ≠ .lastWord →
      ¬Word.Writes before.semantics word component →
      after.content component = before.content component
  memory :
    ∀ address,
      ¬(before.index.toNat ≤ address ∧
          address < before.index.toNat + Word.storeLength before.semantics word) →
      after.memory.bytes[address]? = before.memory.bytes[address]?
  registers :
    ∀ register,
      ¬Word.WritesRegister before.semantics word register →
      after.register register = before.register register
  stack :
    ∀ slot,
      slot ≠ before.sp.toNat →
      after.stack[slot]? = before.stack[slot]?
  called :
    Word.IsCall word →
    after.sp.toNat = before.sp.toNat + 1
  returned :
    Word.IsReturn word →
    after.sp.toNat + 1 = before.sp.toNat
  continues :
    before.Continues word after
  /-- A word that stands for no instruction moves `pc` and is noted, and that is all. -/
  undefined :
    (∀ instruction : Instruction, ¬instruction.Encodes word) →
    after = { before with pc := before.pc + 2, lastWord := word }

variable {machine after : Machine} {word : UInt16} {instruction : Instruction}

/-- A value written with its flag changes no register but the two. -/
theorem register_setFlagged_of_ne
    (machine : Machine)
    {x register : Register}
    (value flag : UInt8)
    (other : register ≠ x)
    (unflagged : register ≠ flagRegister) :
    (machine.setFlagged x value flag).register register = machine.register register := by
  rw [setFlagged, register_setRegister, if_neg other, register_setRegister, if_neg unflagged]

/-- An instruction leaves the registers that the word which encodes it does not write. -/
theorem execute_register
    (encoded : instruction.Encodes word)
    {register : Register}
    (unwritten : ¬Word.WritesRegister machine.semantics word register) :
    (machine.execute instruction).state.register register = machine.register register := by
  have changes := machine.execute_changesOnly instruction
  have other : Word.WritesX machine.semantics word → register ≠ Word.x word :=
    fun writes same => unwritten (.inl ⟨writes, same⟩)
  have unflagged : Word.WritesFlag word → register ≠ flagRegister :=
    fun writes same => unwritten (.inr (.inl ⟨writes, same⟩))
  -- The cases are those of the words: by what they write and by the digits that tell it.
  cases instruction with
  | loadByte x byte | addByte x byte | random x byte =>
      obtain ⟨group, rfl, -⟩ := encoded
      exact (register_setRegister _ _ _ _).trans (if_neg (other (by simp [Word.WritesX, group])))
  | or x y | and x y | xor x y =>
      obtain ⟨group, low, rfl, -⟩ := encoded
      exact (register_setRegister _ _ _ _).trans
        (if_neg (other (by simp [Word.WritesX, group, low])))
  | add x y | subtract x y | subtractFrom x y =>
      obtain ⟨group, low, rfl, -⟩ := encoded
      exact machine.register_setFlagged_of_ne _ _
        (other (by simp [Word.WritesX, group, low]))
        (unflagged (by simp [Word.WritesFlag, group, low]))
  | shiftRight x | shiftLeft x =>
      obtain ⟨group, low, rfl⟩ := encoded
      exact machine.register_setFlagged_of_ne _ _
        (other (by simp [Word.WritesX, group, low]))
        (unflagged (by simp [Word.WritesFlag, group, low]))
  | readDelay x =>
      obtain ⟨group, byte, rfl⟩ := encoded
      exact (register_setRegister _ _ _ _).trans
        (if_neg (other (by simp [Word.WritesX, group, byte])))
  | waitForKey x =>
      obtain ⟨group, byte, rfl⟩ := encoded
      rw [execute, awaitKey]
      split
      next =>
        exact (register_setRegister _ _ _ _).trans
          (if_neg (other (by simp [Word.WritesX, group, byte])))
      next => rfl
  | copy x y =>
      obtain ⟨group, low, rfl, -⟩ := encoded
      rw [execute]
      cases reading : machine.semantics with
      | referenceExact => rfl
      | corrected =>
          exact (register_setRegister _ _ _ _).trans
            (if_neg (other (by simp [Word.WritesX, group, low, reading])))
  | draw x y rows =>
      rw [execute, drawSprite]
      split
      next =>
        exact (register_setRegister _ _ _ _).trans
          (if_neg (unflagged (by simp [Word.WritesFlag, encoded.1])))
      next => rfl
  | loadRegisters x =>
      obtain ⟨group, byte, rfl⟩ := encoded
      cases reading : machine.semantics with
      | referenceExact =>
          exact register_eq (changes.registers_eq (by simp [Instruction.writes, reading])) register
      | corrected =>
          refine (machine.execute_loadRegisters (Word.x word)).2.1 register ?_
          exact Fin.not_le.mp fun within =>
            unwritten (.inr (.inr ⟨⟨group, byte⟩, reading, within⟩))
  | jumpOffset address =>
      refine register_eq (changes.registers_eq ?_) register
      cases machine.semantics <;> simp [Instruction.writes]
  | _ => exact register_eq (changes.registers_eq (by simp [Instruction.writes])) register

/-- An instruction leaves the bytes outside the block that the word which encodes it stores. -/
theorem execute_memory
    (encoded : instruction.Encodes word)
    {address : Nat}
    (outside :
      ¬(machine.index.toNat ≤ address ∧
          address < machine.index.toNat + Word.storeLength machine.semantics word)) :
    (machine.execute instruction).state.memory.bytes[address]? =
      machine.memory.bytes[address]? := by
  have changes := machine.execute_changesOnly instruction
  cases instruction with
  | storeDigits x =>
      obtain ⟨group, byte, -⟩ := encoded
      have length : Word.storeLength machine.semantics word = 3 := by
        simp [Word.storeLength, group, byte]
      rw [length] at outside
      exact machine.storeAtIndex_outside _ outside
  | storeRegisters x =>
      obtain ⟨group, byte, rfl⟩ := encoded
      have length : Word.storeLength machine.semantics word = (Word.x word).val + 1 := by
        simp [Word.storeLength, group, byte]
      rw [length, ← machine.registersUpTo_length] at outside
      exact machine.storeAtIndex_outside _ outside
  | loadRegisters x =>
      obtain ⟨group, byte, rfl⟩ := encoded
      cases reading : machine.semantics with
      | referenceExact =>
          have length : Word.storeLength machine.semantics word = (Word.x word).val + 1 := by
            simp [Word.storeLength, group, byte, reading]
          rw [length] at outside
          refine (machine.execute_loadRegisters (Word.x word)).2.2 address ?_
          omega
      | corrected =>
          rw [changes.memory_eq (by simp [Instruction.writes, reading])]
  | copy x y | jumpOffset address =>
      rw [changes.memory_eq]
      cases machine.semantics <;> simp [Instruction.writes]
  | _ => rw [changes.memory_eq (by simp [Instruction.writes])]

/-- A word leads where the instruction leads that it encodes. -/
theorem flowOfWord_of_encodes
    (instruction : Instruction)
    (encoded : instruction.Encodes word) :
    machine.flowOfWord word = machine.flow instruction := by
  rw [flowOfWord, Instruction.decode?_of_encodes encoded]

/-- A word whose condition holds leads past the next word. -/
theorem flowOfWord_of_skips
    (skips : machine.Skips word) :
    machine.flowOfWord word = .onward 4 := by
  cases skips with
  | equalByte group same =>
      rw [flowOfWord_of_encodes (.skipIfEqualByte _ _) ⟨group, rfl, rfl⟩]
      simp [flow, Flow.skipIf, same]
  | unequalByte group different =>
      rw [flowOfWord_of_encodes (.skipIfUnequalByte _ _) ⟨group, rfl, rfl⟩]
      simp [flow, Flow.skipIf, different]
  | equal group same =>
      rw [flowOfWord_of_encodes (.skipIfEqual _ _) ⟨group, rfl, rfl⟩]
      simp [flow, Flow.skipIf, same]
  | unequal group different =>
      rw [flowOfWord_of_encodes (.skipIfUnequal _ _) ⟨group, rfl, rfl⟩]
      simp [flow, Flow.skipIf, different]
  | keyDown group byte down =>
      rw [flowOfWord_of_encodes (.skipIfKeyDown _) ⟨group, byte, rfl⟩]
      simp [flow, Flow.skipIf, down]
  | keyUp group byte up =>
      rw [flowOfWord_of_encodes (.skipIfKeyUp _) ⟨group, byte, rfl⟩]
      simp [flow, Flow.skipIf, up]

/-- A word that neither moves control itself nor skips leads to the next word. -/
theorem flowOfWord_of_next
    (noAddress : ¬(Word.group word = 0x1 ∨ Word.IsCall word))
    (noReturn : ¬Word.IsReturn word)
    (noOffset : ¬(Word.IsOffsetJump word ∧ machine.semantics = .corrected))
    (noWait : ¬(Word.IsKeyWait word ∧ machine.keypad.AllUp))
    (noSkip : ¬machine.Skips word) :
    machine.flowOfWord word = .onward 2 := by
  cases decoded : Instruction.decode? word with
  | none => rw [flowOfWord, decoded]
  | some instruction =>
      have encoded := Instruction.encodes_of_decode? decoded
      rw [flowOfWord_of_encodes instruction encoded]
      cases instruction with
      | jump address => exact (noAddress (.inl encoded.1)).elim
      | call address => exact (noAddress (.inr encoded.1)).elim
      | returnFromCall => exact (noReturn encoded).elim
      | jumpOffset address =>
          cases reading : machine.semantics with
          | referenceExact => simp [flow, reading]
          | corrected => exact (noOffset ⟨encoded.1, reading⟩).elim
      | waitForKey x =>
          have pressed : machine.keypad.firstDown? ≠ none :=
            fun none => noWait ⟨⟨encoded.1, encoded.2.1⟩, Keypad.firstDown?_eq_none_iff.mp none⟩
          simp [flow, Option.isSome_iff_ne_none.mpr pressed]
      | skipIfEqualByte x byte =>
          obtain ⟨group, rfl, rfl⟩ := encoded
          simpa [flow, Flow.skipIf] using fun same => noSkip (.equalByte group same)
      | skipIfUnequalByte x byte =>
          obtain ⟨group, rfl, rfl⟩ := encoded
          simpa [flow, Flow.skipIf] using fun different => noSkip (.unequalByte group different)
      | skipIfEqual x y =>
          obtain ⟨group, rfl, rfl⟩ := encoded
          simpa [flow, Flow.skipIf] using fun same => noSkip (.equal group same)
      | skipIfUnequal x y =>
          obtain ⟨group, rfl, rfl⟩ := encoded
          simpa [flow, Flow.skipIf] using fun different => noSkip (.unequal group different)
      | skipIfKeyDown x =>
          obtain ⟨group, byte, rfl⟩ := encoded
          simpa [flow, Flow.skipIf] using fun down => noSkip (.keyDown group byte down)
      | skipIfKeyUp x =>
          obtain ⟨group, byte, rfl⟩ := encoded
          simpa [flow, Flow.skipIf] using fun up => noSkip (.keyUp group byte up)
      | _ => rfl

/-- Control that moves onward moves `pc` by the distance. -/
theorem Leads.pc_onward
    {distance : Nat}
    (leads : machine.Leads after (.onward distance)) :
    after.pc.toNat = machine.pc.toNat + distance := by
  cases leads with
  | onward pc _ _ => exact pc

/-- Control that jumps moves `pc` to the target. -/
theorem Leads.pc_jump
    {target : Nat}
    (leads : machine.Leads after (.jump target)) :
    after.pc.toNat = target := by
  cases leads with
  | jump pc _ _ => exact pc

/-- Control that moves as a word says goes on where the word says. -/
theorem Leads.continues
    (leads : machine.Leads after (machine.flowOfWord word)) :
    machine.Continues word after where
  address := by
    rintro (jump | call)
    · rw [flowOfWord_of_encodes (.jump _) ⟨jump, rfl⟩] at leads
      exact UInt16.toNat_inj.mp leads.pc_jump
    · rw [flowOfWord_eq_enter_iff.mpr ⟨call, rfl⟩] at leads
      cases leads with
      | enter _ _ pc _ _ => exact pc
  popped returns := by
    rw [flowOfWord_eq_leave_iff.mpr returns] at leads
    cases leads with
    | leave pc sp _ =>
        have top : machine.sp.toNat - 1 = after.sp.toNat := by
          omega
        rw [top, pc]
  offset := by
    rintro ⟨group, reading⟩
    rw [flowOfWord_of_encodes (.jumpOffset _) ⟨group, rfl⟩, flow, reading] at leads
    exact leads.pc_jump
  waits := by
    rintro ⟨⟨group, byte⟩, up⟩
    have none := Keypad.firstDown?_eq_none_iff.mpr up
    rw [flowOfWord_of_encodes (.waitForKey _) ⟨group, byte, rfl⟩, flow, none] at leads
    exact UInt16.toNat_inj.mp leads.pc_onward
  skips holds := by
    rw [flowOfWord_of_skips holds] at leads
    exact leads.pc_onward
  next noAddress noReturn noOffset noWait noSkip := by
    rw [flowOfWord_of_next noAddress noReturn noOffset noWait noSkip] at leads
    exact leads.pc_onward

/-- Control that moves reaches no stack slot but the one at the stack pointer. -/
theorem Leads.stack_getElem?
    {flow : Flow}
    (leads : machine.Leads after flow)
    {slot : Nat}
    (other : slot ≠ machine.sp.toNat) :
    after.stack[slot]? = machine.stack[slot]? := by
  cases leads with
  | onward _ _ stack => rw [stack]
  | jump _ _ stack => rw [stack]
  | leave _ _ stack => rw [stack]
  | enter _ _ _ _ stack =>
      rw [stack]
      exact Vector.getElem?_set_ne _ other.symm

/-- A word that encodes no instruction decodes to none. -/
theorem decode?_eq_none
    (undefined : ∀ instruction : Instruction, ¬instruction.Encodes word) :
    Instruction.decode? word = none :=
  Option.eq_none_iff_forall_ne_some.mpr fun instruction decoded =>
    undefined instruction (Instruction.encodes_of_decode? decoded)

/-- An instruction that succeeds leaves every component that its word does not write. -/
theorem step_content
    (fetch : machine.memory.readWord machine.pc.toNat = .ok word)
    (succeeded : machine.step.result = .ok ())
    {component : Component}
    (noted : component ≠ .lastWord)
    (unwritten : ¬Word.Writes machine.semantics word component) :
    machine.step.state.content component = machine.content component := by
  have passed : (machine.fetched word).content component = machine.content component := by
    cases component with
    | pc => exact (unwritten trivial).elim
    | lastWord => exact (noted rfl).elim
    | _ => rfl
  cases decoded : Instruction.decode? word with
  | none => rw [(step_of_undefined fetch decoded).2, passed]
  | some instruction =>
      rw [step_state_of_succeeded fetch decoded succeeded, ← passed]
      exact ((machine.fetched word).execute_changesOnly instruction).content_eq
        fun written => unwritten ((Instruction.encodes_of_decode? decoded).writes written)

/-- A step that succeeds notes its word. -/
theorem step_lastWord
    (fetch : machine.memory.readWord machine.pc.toNat = .ok word)
    (succeeded : machine.step.result = .ok ()) :
    machine.step.state.lastWord = word := by
  cases decoded : Instruction.decode? word with
  | none => rw [(step_of_undefined fetch decoded).2, fetched]
  | some instruction =>
      have unwritten : .lastWord ∉ instruction.writes (machine.fetched word).semantics :=
        fun written => (Instruction.encodes_of_decode? decoded).writes written
      rw [step_state_of_succeeded fetch decoded succeeded]
      exact ((machine.fetched word).execute_changesOnly instruction).content_eq unwritten

/-- A step leaves every byte outside the block that its word stores as it was. -/
theorem step_memory
    (fetch : machine.memory.readWord machine.pc.toNat = .ok word)
    (succeeded : machine.step.result = .ok ())
    {address : Nat}
    (outside :
      ¬(machine.index.toNat ≤ address ∧
          address < machine.index.toNat + Word.storeLength machine.semantics word)) :
    machine.step.state.memory.bytes[address]? = machine.memory.bytes[address]? := by
  cases decoded : Instruction.decode? word with
  | none => rw [(step_of_undefined fetch decoded).2, fetched]
  | some instruction =>
      rw [step_state_of_succeeded fetch decoded succeeded]
      exact execute_memory (Instruction.encodes_of_decode? decoded) outside

/-- A step leaves every register that its word does not write as it was. -/
theorem step_register
    (fetch : machine.memory.readWord machine.pc.toNat = .ok word)
    (succeeded : machine.step.result = .ok ())
    {register : Register}
    (unwritten : ¬Word.WritesRegister machine.semantics word register) :
    machine.step.state.register register = machine.register register := by
  cases decoded : Instruction.decode? word with
  | none =>
      rw [(step_of_undefined fetch decoded).2]
      rfl
  | some instruction =>
      rw [step_state_of_succeeded fetch decoded succeeded]
      exact execute_register (Instruction.encodes_of_decode? decoded) unwritten

/--
A step that succeeds writes what its word names and nothing else, notes the
word, and goes on where the word says.
-/
theorem step_footprint
    (machine : Machine)
    (succeeded : machine.step.result = .ok ()) :
    ∃ word,
      machine.memory.readWord machine.pc.toNat = .ok word ∧
        machine.Footprint word machine.step.state := by
  obtain ⟨word, fetch, leads⟩ := step_leads succeeded
  refine ⟨word, fetch, ?_⟩
  exact
    { lastWord := step_lastWord fetch succeeded
      kept := fun _ noted unwritten => step_content fetch succeeded noted unwritten
      memory := fun _ outside => step_memory fetch succeeded outside
      registers := fun _ unwritten => step_register fetch succeeded unwritten
      stack := fun _ other => leads.stack_getElem? other
      called := fun call => by
        rw [flowOfWord_eq_enter_iff.mpr ⟨call, rfl⟩] at leads
        cases leads with
        | enter _ _ _ sp _ => exact sp
      returned := fun returns => by
        rw [flowOfWord_eq_leave_iff.mpr returns] at leads
        cases leads with
        | leave _ sp _ => exact sp
      continues := leads.continues
      undefined := fun undefined => (step_of_undefined fetch (decode?_eq_none undefined)).2 }

/-- A machine about to load three registers, under the reading that stores them. -/
def storingThree : Machine :=
  { loaded .referenceExact [0xF2, 0x65] with
    registers := Vector.replicate 16 0xAA
    index := 0x300 }

/-- The store ends behind its third byte and leaves every register. -/
theorem storingThree_footprint :
    storingThree.step.result = .ok () ∧
      storingThree.step.state.memory.read 0x302 = .ok 0xAA ∧
      (∀ address, 0x303 ≤ address →
        storingThree.step.state.memory.bytes[address]? = storingThree.memory.bytes[address]?) ∧
      ∀ register,
        storingThree.step.state.register register = storingThree.register register := by
  have run :
      storingThree.memory.readWord storingThree.pc.toNat = .ok 0xF265 ∧
        storingThree.step.result = .ok () ∧
        storingThree.step.state.memory.read 0x302 = .ok 0xAA ∧
        storingThree.index.toNat + Word.storeLength storingThree.semantics 0xF265 = 0x303 := by
    decide +kernel
  obtain ⟨fetch, succeeded, byte, blockEnd⟩ := run
  obtain ⟨word, found, footprint⟩ := step_footprint storingThree succeeded
  obtain rfl := Except.ok.inj (fetch.symm.trans found)
  refine ⟨succeeded, byte, ?_, ?_⟩
  · intro address past
    refine footprint.memory address ?_
    rw [blockEnd]
    omega
  · intro register
    refine footprint.registers register ?_
    rintro (⟨writes, -⟩ | ⟨writes, -⟩ | ⟨-, reading, -⟩)
    · exact absurd writes (by unfold Word.WritesX; decide)
    · exact absurd writes (by unfold Word.WritesFlag; decide)
    · cases reading

end Machine

end Chip8
