import Chip8.Proofs.Instruction.Encoding
import Chip8.Proofs.Machine.Stops

namespace Chip8

/-!
# How a step ends

The conditions on a machine and the word at its `pc` under which a step faults,
crashes or succeeds, read off the bits of the word.  The conditions exclude
each other, and a step succeeds exactly where none of them holds.
-/

namespace Word

/-- The word is a return, `0nEE`. -/
def IsReturn (word : UInt16) : Prop :=
  group word = 0x0 ∧ byte word = 0xEE

/-- The word is a call, `2nnn`. -/
def IsCall (word : UInt16) : Prop :=
  group word = 0x2

/-- The word asks about the key that a register names, `Ex9E` or `ExA1`. -/
def IsKeyTest (word : UInt16) : Prop :=
  group word = 0xE ∧ (byte word = 0x9E ∨ byte word = 0xA1)

/-- The word draws a sprite, `Dxyn`. -/
def IsSprite (word : UInt16) : Prop :=
  group word = 0xD

/--
The number of bytes at the index that a word needs: `n` for `Dxyn`, three for
`Fx33`, `x + 1` for `Fx55` and `Fx65`, and none for any other word.
-/
def blockLength (word : UInt16) : Nat :=
  if group word = 0xD then
    (low word).val
  else if group word = 0xF ∧ byte word = 0x33 then
    3
  else if group word = 0xF ∧ (byte word = 0x55 ∨ byte word = 0x65) then
    (x word).val + 1
  else
    0

/-- A sprite without rows has a word that ends in zero. -/
theorem low_eq_zero_of_rows
    {word : UInt16}
    (empty : rows word = 0) :
    low word = 0 := by
  apply Fin.ext
  rw [← rows_toNat, empty]
  rfl

end Word

namespace Instruction

/-- The number of bytes at the index that an instruction reads or writes. -/
def blockLength? : Instruction → Option Nat
  | .draw _ _ rows => some rows.toNat
  | .storeDigits _ => some 3
  | .storeRegisters x => some (x.val + 1)
  | .loadRegisters x => some (x.val + 1)
  | _ => none

/-- A word needs bytes at the index exactly when the instruction it encodes accesses them. -/
theorem exists_encodes_blockLength?_iff
    {word : UInt16}
    {length : Nat}
    (positive : 1 ≤ length) :
    (∃ instruction : Instruction,
        instruction.Encodes word ∧ instruction.blockLength? = some length) ↔
      Word.blockLength word = length := by
  constructor
  · rintro ⟨instruction, encoded, needed⟩
    cases instruction with
    | draw x y rows =>
        obtain ⟨group, -, -, rfl⟩ := encoded
        simpa [blockLength?, Word.blockLength, group, Word.rows_toNat] using needed
    | storeDigits x =>
        obtain ⟨group, byte, -⟩ := encoded
        simpa [blockLength?, Word.blockLength, group, byte] using needed
    | storeRegisters x =>
        obtain ⟨group, byte, rfl⟩ := encoded
        simpa [blockLength?, Word.blockLength, group, byte] using needed
    | loadRegisters x =>
        obtain ⟨group, byte, rfl⟩ := encoded
        simpa [blockLength?, Word.blockLength, group, byte] using needed
    | _ =>
        cases needed
  · intro needed
    unfold Word.blockLength at needed
    split at needed
    next sprite =>
      refine ⟨.draw (Word.x word) (Word.y word) (Word.rows word), ⟨sprite, rfl, rfl, rfl⟩, ?_⟩
      simp only [blockLength?, Word.rows_toNat, needed]
    next =>
      split at needed
      next digits =>
        exact ⟨.storeDigits (Word.x word), ⟨digits.1, digits.2, rfl⟩, congrArg some needed⟩
      next =>
        split at needed
        next registers =>
          obtain ⟨group, byte | byte⟩ := registers
          · exact ⟨.storeRegisters (Word.x word), ⟨group, byte, rfl⟩, congrArg some needed⟩
          · exact ⟨.loadRegisters (Word.x word), ⟨group, byte, rfl⟩, congrArg some needed⟩
        next =>
          omega

end Instruction

namespace Machine

/-- A return finds the stack empty. -/
def Underflows
    (machine : Machine)
    (word : UInt16) :
    Prop :=
  Word.IsReturn word ∧ machine.sp = 0

/-- A call finds the stack full. -/
def Overflows
    (machine : Machine)
    (word : UInt16) :
    Prop :=
  Word.IsCall word ∧ 16 ≤ machine.sp.toNat

/-- A word asks about a key that does not exist. -/
def MissesKey
    (machine : Machine)
    (word : UInt16) :
    Prop :=
  Word.IsKeyTest word ∧ 15 < (machine.register (Word.x word)).toNat

/-- A word needs bytes at the index that lie past the end of memory. -/
def Overreaches
    (machine : Machine)
    (word : UInt16) :
    Prop :=
  1 ≤ Word.blockLength word ∧
    0x1000 < machine.index.toNat + Word.blockLength word

/-- A return finds the stack pointer past the stack, or an empty sprite lies above memory. -/
def Crashes
    (machine : Machine)
    (word : UInt16) :
    Prop :=
  (Word.IsReturn word ∧ 16 < machine.sp.toNat) ∨
    (Word.IsSprite word ∧ Word.low word = 0 ∧ 0x1000 < machine.index.toNat)

/-- How a step on a word ends, one condition for each way. -/
structure Outcome
    (machine : Machine)
    (word : UInt16)
    (result : Except Stop Unit) :
    Prop where
  underflow :
    result = .error (.fault .stackUnderflow) ↔ machine.Underflows word
  overflow :
    result = .error (.fault .stackOverflow) ↔ machine.Overflows word
  key :
    ∀ key,
      result = .error (.fault (.keyOutOfRange key)) ↔
        machine.MissesKey word ∧ key = machine.register (Word.x word)
  memory :
    ∀ address,
      result = .error (.fault (.memoryOutOfRange address)) ↔
        machine.Overreaches word ∧ address = max machine.index.toNat 0x1000
  crash :
    result = .error .crash ↔ machine.Crashes word
  success :
    result = .ok () ↔
      ¬(machine.Underflows word ∨ machine.Overflows word ∨ machine.MissesKey word ∨
        machine.Overreaches word ∨ machine.Crashes word)

variable {machine : Machine} {instruction : Instruction} {word : UInt16}

/-- An access at the index stops with a fault exactly when it needs bytes past the end. -/
theorem indexStop?_eq_fault_iff
    {length : Nat}
    {cause : Fault} :
    machine.indexStop? length = some (.fault cause) ↔
      1 ≤ length ∧ 0x1000 < machine.index.toNat + length ∧
        cause = .memoryOutOfRange (max machine.index.toNat 0x1000) :=
  Memory.blockStop?_eq_fault_iff

/-- An access at the index is a crash exactly when it is empty and above the end. -/
theorem indexStop?_eq_crash_iff
    {length : Nat} :
    machine.indexStop? length = some .crash ↔
      length = 0 ∧ 0x1000 < machine.index.toNat :=
  Memory.blockStop?_eq_crash_iff

/-- A return faults exactly on an empty stack. -/
theorem returnStop?_eq_fault_iff
    {cause : Fault} :
    machine.returnStop? = some (.fault cause) ↔
      machine.sp = 0 ∧ cause = .stackUnderflow := by
  unfold returnStop?
  by_cases empty : machine.sp = 0
  · simp [empty, eq_comm]
  · by_cases past : stackDepth < machine.sp.toNat <;> simp [empty, past]

/-- A return crashes exactly when the depth is beyond the stack. -/
theorem returnStop?_eq_crash_iff :
    machine.returnStop? = some .crash ↔ 16 < machine.sp.toNat := by
  unfold returnStop?
  by_cases empty : machine.sp = 0
  · simp [empty]
  · by_cases past : stackDepth < machine.sp.toNat
    · simp only [empty, past, ↓reduceIte, true_iff]
      exact past
    · simp only [empty, past, ↓reduceIte, reduceCtorEq, false_iff]
      exact past

/-- A call stops exactly on a full stack, and then faults. -/
theorem callStop?_eq_some_iff
    {stop : Stop} :
    machine.callStop? = some stop ↔
      16 ≤ machine.sp.toNat ∧ stop = .fault .stackOverflow := by
  unfold callStop?
  by_cases full : stackDepth ≤ machine.sp.toNat
  · have full' : 16 ≤ machine.sp.toNat := full
    simp [full, full', eq_comm]
  · have free : ¬16 ≤ machine.sp.toNat := full
    simp [full, free]

/-- A skip on a key stops exactly when the register names no key, and then faults with its value. -/
theorem keyStop?_eq_some_iff
    {x : Register}
    {stop : Stop} :
    machine.keyStop? x = some stop ↔
      15 < (machine.register x).toNat ∧
        stop = .fault (.keyOutOfRange (machine.register x)) := by
  unfold keyStop?
  by_cases missing : keyCount ≤ (machine.register x).toNat
  · have missing' : 15 < (machine.register x).toNat := missing
    simp [missing, missing', eq_comm]
  · have named : ¬15 < (machine.register x).toNat := missing
    simp [missing, named]

/-- Only a return finds the stack empty. -/
theorem stop?_eq_underflow_iff :
    machine.stop? instruction = some (.fault .stackUnderflow) ↔
      instruction = .returnFromCall ∧ machine.sp = 0 := by
  cases instruction <;>
    simp [stop?, returnStop?_eq_fault_iff, callStop?_eq_some_iff,
      keyStop?_eq_some_iff, indexStop?_eq_fault_iff]

/-- Only a call finds the stack full. -/
theorem stop?_eq_overflow_iff :
    machine.stop? instruction = some (.fault .stackOverflow) ↔
      (∃ address, instruction = .call address) ∧ 16 ≤ machine.sp.toNat := by
  cases instruction <;>
    simp [stop?, returnStop?_eq_fault_iff, callStop?_eq_some_iff,
      keyStop?_eq_some_iff, indexStop?_eq_fault_iff]

/-- Only a question about a key can miss it. -/
theorem stop?_eq_keyOutOfRange_iff
    {key : UInt8} :
    machine.stop? instruction = some (.fault (.keyOutOfRange key)) ↔
      ∃ x, (instruction = .skipIfKeyDown x ∨ instruction = .skipIfKeyUp x) ∧
        15 < (machine.register x).toNat ∧ key = machine.register x := by
  cases instruction <;>
    simp [stop?, returnStop?_eq_fault_iff, callStop?_eq_some_iff,
      keyStop?_eq_some_iff, indexStop?_eq_fault_iff]

/-- Only an access at the index can leave memory. -/
theorem stop?_eq_memoryOutOfRange_iff
    {address : Nat} :
    machine.stop? instruction = some (.fault (.memoryOutOfRange address)) ↔
      ∃ length, instruction.blockLength? = some length ∧ 1 ≤ length ∧
        0x1000 < machine.index.toNat + length ∧
        address = max machine.index.toNat 0x1000 := by
  cases instruction <;>
    simp [stop?, Instruction.blockLength?, returnStop?_eq_fault_iff, callStop?_eq_some_iff,
      keyStop?_eq_some_iff, indexStop?_eq_fault_iff]

/-- Only a return and an empty sprite can crash. -/
theorem stop?_eq_crash_iff :
    machine.stop? instruction = some .crash ↔
      (instruction = .returnFromCall ∧ 16 < machine.sp.toNat) ∨
        ∃ x y, instruction = .draw x y 0 ∧ 0x1000 < machine.index.toNat := by
  cases instruction <;>
    simp [stop?, returnStop?_eq_crash_iff, callStop?_eq_some_iff,
      keyStop?_eq_some_iff, indexStop?_eq_crash_iff, ← UInt8.toNat_inj]

/-- A step stops on a fetched word exactly when the instruction that the word encodes stops. -/
theorem step_result_eq_error_iff_encodes
    {stop : Stop}
    (fetch : machine.memory.readWord machine.pc.toNat = .ok word) :
    machine.step.result = .error stop ↔
      ∃ instruction : Instruction,
        instruction.Encodes word ∧ machine.stop? instruction = some stop := by
  simp only [step_result_eq_error_iff, stepStop?, fetch, Option.bind_eq_some_iff,
    Instruction.decode?_eq_some_iff]

/-- A step underflows the stack exactly when its word returns from nothing. -/
theorem step_underflows_iff
    (fetch : machine.memory.readWord machine.pc.toNat = .ok word) :
    machine.step.result = .error (.fault .stackUnderflow) ↔ machine.Underflows word := by
  simp only [step_result_eq_error_iff_encodes fetch, stop?_eq_underflow_iff]
  constructor
  · rintro ⟨_, encoded, rfl, empty⟩
    exact ⟨encoded, empty⟩
  · rintro ⟨encoded, empty⟩
    exact ⟨.returnFromCall, encoded, rfl, empty⟩

/-- A step overflows the stack exactly when its word calls on a full one. -/
theorem step_overflows_iff
    (fetch : machine.memory.readWord machine.pc.toNat = .ok word) :
    machine.step.result = .error (.fault .stackOverflow) ↔ machine.Overflows word := by
  simp only [step_result_eq_error_iff_encodes fetch, stop?_eq_overflow_iff]
  constructor
  · rintro ⟨_, encoded, ⟨address, rfl⟩, full⟩
    exact ⟨encoded.1, full⟩
  · rintro ⟨group, full⟩
    exact ⟨.call (Word.address word), ⟨group, rfl⟩, ⟨_, rfl⟩, full⟩

/-- A step misses a key exactly when its word asks for one that does not exist. -/
theorem step_missesKey_iff
    (fetch : machine.memory.readWord machine.pc.toNat = .ok word)
    (key : UInt8) :
    machine.step.result = .error (.fault (.keyOutOfRange key)) ↔
      machine.MissesKey word ∧ key = machine.register (Word.x word) := by
  simp only [step_result_eq_error_iff_encodes fetch, stop?_eq_keyOutOfRange_iff]
  constructor
  · rintro ⟨_, encoded, x, rfl | rfl, missing, rfl⟩
    · obtain ⟨group, byte, rfl⟩ := encoded
      exact ⟨⟨⟨group, .inl byte⟩, missing⟩, rfl⟩
    · obtain ⟨group, byte, rfl⟩ := encoded
      exact ⟨⟨⟨group, .inr byte⟩, missing⟩, rfl⟩
  · rintro ⟨⟨⟨group, byte | byte⟩, missing⟩, named⟩
    · exact ⟨.skipIfKeyDown (Word.x word), ⟨group, byte, rfl⟩, _, .inl rfl, missing, named⟩
    · exact ⟨.skipIfKeyUp (Word.x word), ⟨group, byte, rfl⟩, _, .inr rfl, missing, named⟩

/-- A step leaves the memory exactly when its block does, and reports where it first does. -/
theorem step_overreaches_iff
    (fetch : machine.memory.readWord machine.pc.toNat = .ok word)
    (address : Nat) :
    machine.step.result = .error (.fault (.memoryOutOfRange address)) ↔
      machine.Overreaches word ∧ address = max machine.index.toNat 0x1000 := by
  simp only [step_result_eq_error_iff_encodes fetch, stop?_eq_memoryOutOfRange_iff]
  constructor
  · rintro ⟨instruction, encoded, length, needed, positive, outside, named⟩
    have same :=
      (Instruction.exists_encodes_blockLength?_iff positive).mp ⟨instruction, encoded, needed⟩
    subst same
    exact ⟨⟨positive, outside⟩, named⟩
  · rintro ⟨⟨positive, outside⟩, named⟩
    obtain ⟨instruction, encoded, needed⟩ :=
      (Instruction.exists_encodes_blockLength?_iff positive).mpr rfl
    exact ⟨instruction, encoded, _, needed, positive, outside, named⟩

/--
A step crashes exactly when its word draws nothing beyond the memory or returns
from too deep.
-/
theorem step_crashes_iff
    (fetch : machine.memory.readWord machine.pc.toNat = .ok word) :
    machine.step.result = .error .crash ↔ machine.Crashes word := by
  simp only [step_result_eq_error_iff_encodes fetch, stop?_eq_crash_iff]
  constructor
  · rintro ⟨_, encoded, ⟨rfl, past⟩ | ⟨x, y, rfl, above⟩⟩
    · exact .inl ⟨encoded, past⟩
    · obtain ⟨group, -, -, rows⟩ := encoded
      exact .inr ⟨group, Word.low_eq_zero_of_rows rows.symm, above⟩
  · rintro (⟨encoded, past⟩ | ⟨group, empty, above⟩)
    · exact ⟨.returnFromCall, encoded, .inl ⟨rfl, past⟩⟩
    · have rows : 0 = Word.rows word := by
        simp [Word.rows, empty]
      exact ⟨.draw (Word.x word) (Word.y word) 0, ⟨group, rfl, rfl, rows⟩,
        .inr ⟨_, _, rfl, above⟩⟩

/-- A step succeeds exactly when nothing of that is the case. -/
theorem step_succeeds_iff
    (fetch : machine.memory.readWord machine.pc.toNat = .ok word) :
    machine.step.result = .ok () ↔
      ¬(machine.Underflows word ∨ machine.Overflows word ∨ machine.MissesKey word ∨
        machine.Overreaches word ∨ machine.Crashes word) := by
  rw [← step_underflows_iff fetch, ← step_overflows_iff fetch, ← step_crashes_iff fetch]
  have key := step_missesKey_iff fetch
  have memory := step_overreaches_iff fetch
  constructor
  · rintro succeeded (ends | ends | condition | condition | ends)
    · simp [succeeded] at ends
    · simp [succeeded] at ends
    · simpa [succeeded] using (key _).mpr ⟨condition, rfl⟩
    · simpa [succeeded] using (memory _).mpr ⟨condition, rfl⟩
    · simp [succeeded] at ends
  · intro harmless
    simp only [not_or] at harmless
    obtain ⟨noUnderflow, noOverflow, noKey, noMemory, noCrash⟩ := harmless
    cases ends : machine.step.result with
    | ok =>
        rfl
    | error stop =>
        cases stop with
        | crash =>
            exact (noCrash ends).elim
        | fault cause =>
            cases cause with
            | stackUnderflow => exact (noUnderflow ends).elim
            | stackOverflow => exact (noOverflow ends).elim
            | keyOutOfRange => exact (noKey ((key _).mp ends).1).elim
            | memoryOutOfRange => exact (noMemory ((memory _).mp ends).1).elim

/--
How every step ends.  Where the word reaches past the end of memory the fetch
names the first address outside; elsewhere the bits of the word decide.
-/
theorem step_outcome
    (machine : Machine) :
    (0xFFE < machine.pc.toNat →
      machine.step.result =
        .error (.fault (.memoryOutOfRange (max machine.pc.toNat 0x1000)))) ∧
    (machine.pc.toNat ≤ 0xFFE →
      ∃ high low word,
        machine.memory.read machine.pc.toNat = .ok high ∧
          machine.memory.read (machine.pc.toNat + 1) = .ok low ∧
          word.toNat = 256 * high.toNat + low.toNat ∧
          machine.Outcome word machine.step.result) := by
  constructor
  · intro outside
    have fetch := machine.memory.readWord_of_outside (Nat.succ_le_succ outside)
    rw [step_result_eq_error_iff, stepStop?, fetch]
    rfl
  · intro inside
    obtain ⟨high, low, highRead, lowRead, fetch⟩ :=
      machine.memory.readWord_of_inside (Nat.lt_succ_of_le (Nat.succ_le_succ inside))
    refine ⟨high, low, _, highRead, lowRead, Memory.wordOfBytes_toNat high low, ?_⟩
    exact
      { underflow := step_underflows_iff fetch
        overflow := step_overflows_iff fetch
        key := step_missesKey_iff fetch
        memory := step_overreaches_iff fetch
        crash := step_crashes_iff fetch
        success := step_succeeds_iff fetch }

end Machine

end Chip8
