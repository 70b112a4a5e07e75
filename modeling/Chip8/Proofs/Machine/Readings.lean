import Chip8.Proofs.Machine.Inputs

namespace Chip8.Machine

/-!
# The two readings

The two semantics read three operations differently.  Until one of them
succeeds, machines under either semantics go through a run in step; the first
one that succeeds can part them only in what one of its two readings writes.
-/

variable {machine first second : Machine} {word : UInt16}

/-- A copy writes one register or none. -/
theorem step_of_copy
    (fetch : machine.memory.readWord machine.pc.toNat = .ok word)
    (copy : Word.IsCopy word) :
    machine.step.state.AgreesOutside (machine.fetched word) [.registers] ∧
      ∀ register, register ≠ Word.x word →
        machine.step.state.register register = machine.register register := by
  have decoded : Instruction.decode? word = some (.copy (Word.x word) (Word.y word)) :=
    Instruction.decode?_of_encodes ⟨copy.1, copy.2, rfl, rfl⟩
  rw [(step_of_runs fetch decoded rfl).2]
  refine ⟨?_, ?_⟩
  · have changes :=
      (machine.fetched word).execute_changesOnly (.copy (Word.x word) (Word.y word))
    refine changes.agreesOutside.mono ?_
    cases (machine.fetched word).semantics <;> simp [Instruction.writes]
  · intro register other
    unfold execute
    cases (machine.fetched word).semantics with
    | referenceExact => rfl
    | corrected =>
        rw [Reply.done_state, register_setRegister, if_neg other]
        rfl

/-- An offset jump writes `pc` or the index. -/
theorem step_of_offsetJump
    (fetch : machine.memory.readWord machine.pc.toNat = .ok word)
    (jump : Word.IsOffsetJump word) :
    machine.step.state.AgreesOutside (machine.fetched word) [.pc, .index] := by
  have decoded : Instruction.decode? word = some (.jumpOffset (Word.address word)) :=
    Instruction.decode?_of_encodes ⟨jump, rfl⟩
  rw [(step_of_runs fetch decoded rfl).2]
  have changes := (machine.fetched word).execute_changesOnly (.jumpOffset (Word.address word))
  refine changes.agreesOutside.mono ?_
  cases (machine.fetched word).semantics <;> simp [Instruction.writes]

/-- A store at the index leaves the bytes outside its block. -/
theorem storeAtIndex_outside
    (machine : Machine)
    (data : List UInt8)
    {address : Nat}
    (outside :
      ¬(machine.index.toNat ≤ address ∧ address < machine.index.toNat + data.length)) :
    (machine.storeAtIndex data).state.memory.bytes[address]? = machine.memory.bytes[address]? := by
  unfold storeAtIndex
  rw [Memory.writeSlice_eq]
  cases Memory.blockStop? machine.index.toNat data.length with
  | none => exact machine.memory.fill_getElem?_of_outside outside
  | some stop => rfl

/-- Replacing the first registers puts each value where it stands and leaves the other registers. -/
theorem register_setRegisters
    (machine : Machine)
    (values : List UInt8)
    (register : Register) :
    (machine.setRegisters values).register register =
      values[register.val]?.getD (machine.register register) := by
  simp [setRegisters, Machine.register]

/-- Loading registers writes those up to the one it names, or as many bytes at the index. -/
theorem execute_loadRegisters
    (machine : Machine)
    (x : Register) :
    let after := (machine.execute (.loadRegisters x)).state
    after.AgreesOutside machine [.registers, .memory] ∧
      (∀ register, x < register → after.register register = machine.register register) ∧
      ∀ address, ¬(machine.index.toNat ≤ address ∧ address ≤ machine.index.toNat + x.val) →
        after.memory.bytes[address]? = machine.memory.bytes[address]? := by
  intro after
  have changes := machine.execute_changesOnly (.loadRegisters x)
  have within :
      Instruction.writes machine.semantics (.loadRegisters x) ⊆ [.registers, .memory] := by
    cases machine.semantics <;> simp [Instruction.writes]
  refine ⟨changes.agreesOutside.mono within, ?_, ?_⟩
  · intro register above
    cases reading : machine.semantics with
    | referenceExact =>
        exact register_eq (changes.registers_eq (by simp [Instruction.writes, reading])) register
    | corrected =>
        simp only [after, execute, reading]
        split
        next values read =>
          have past : values.length ≤ register.val := by
            rw [Memory.length_of_slice read]
            exact above
          rw [Reply.done_state, register_setRegisters, List.getElem?_eq_none past, Option.getD_none]
        next => rfl
  · intro address outside
    cases reading : machine.semantics with
    | referenceExact =>
        simp only [after, execute, reading]
        refine machine.storeAtIndex_outside _ ?_
        rw [registersUpTo_length]
        omega
    | corrected =>
        rw [changes.memory_eq (by simp [Instruction.writes, reading])]

/-- Loading registers writes what its execution writes. -/
theorem step_of_registerLoad
    (fetch : machine.memory.readWord machine.pc.toNat = .ok word)
    (load : Word.IsRegisterLoad word)
    (succeeded : machine.step.result = .ok ()) :
    let x := Word.x word
    machine.step.state.AgreesOutside (machine.fetched word) [.registers, .memory] ∧
      (∀ register, x < register →
        machine.step.state.register register = machine.register register) ∧
      ∀ address, ¬(machine.index.toNat ≤ address ∧ address ≤ machine.index.toNat + x.val) →
        machine.step.state.memory.bytes[address]? = machine.memory.bytes[address]? := by
  have decoded : Instruction.decode? word = some (.loadRegisters (Word.x word)) :=
    Instruction.decode?_of_encodes ⟨load.1, load.2, rfl⟩
  rw [step_state_of_succeeded fetch decoded succeeded]
  exact (machine.fetched word).execute_loadRegisters (Word.x word)

/--
What may differ after a step on a word with two readings: the register that a
copy names, `pc` and the index after an offset jump, and after a register load
the registers up to the one it names and as many bytes at the index.
-/
structure PartedBy
    (before : Machine)
    (word : UInt16)
    (first second : Machine) :
    Prop where
  copy :
    Word.IsCopy word →
    first.AgreesOutside second [.semantics, .registers] ∧
      ∀ register, register ≠ Word.x word → first.register register = second.register register
  offsetJump :
    Word.IsOffsetJump word →
    first.AgreesOutside second [.semantics, .pc, .index]
  registerLoad :
    Word.IsRegisterLoad word →
    first.AgreesOutside second [.semantics, .registers, .memory] ∧
      (∀ register, Word.x word < register → first.register register = second.register register) ∧
      ∀ address,
        ¬(before.index.toNat ≤ address ∧
            address ≤ before.index.toNat + (Word.x word).val) →
        first.memory.bytes[address]? = second.memory.bytes[address]?

/-- A step that succeeds parts two machines in step only as its word allows. -/
theorem AgreesOutside.partedBy
    (agrees : first.AgreesOutside second [.semantics])
    (fetch : first.memory.readWord first.pc.toNat = .ok word)
    (firstSucceeded : first.step.result = .ok ())
    (secondSucceeded : second.step.result = .ok ()) :
    first.PartedBy word first.step.state second.step.state := by
  have memory : first.memory = second.memory := agrees .memory (by decide)
  have pc : first.pc = second.pc := agrees .pc (by decide)
  have index : first.index = second.index := agrees .index (by decide)
  have registers : first.registers = second.registers := agrees .registers (by decide)
  have fetched := agrees.fetched (by decide) word
  have secondFetch : second.memory.readWord second.pc.toNat = .ok word := by
    rw [← memory, ← pc, fetch]
  refine ⟨?_, ?_, ?_⟩
  · intro copy
    obtain ⟨firstWrites, firstKept⟩ := step_of_copy fetch copy
    obtain ⟨secondWrites, secondKept⟩ := step_of_copy secondFetch copy
    refine ⟨fetched.after_writes firstWrites secondWrites, ?_⟩
    intro register other
    rw [firstKept register other, secondKept register other, register_eq registers]
  · intro jump
    exact fetched.after_writes (step_of_offsetJump fetch jump)
      (step_of_offsetJump secondFetch jump)
  · intro load
    obtain ⟨firstWrites, firstKept, firstBytes⟩ :=
      step_of_registerLoad fetch load firstSucceeded
    obtain ⟨secondWrites, secondKept, secondBytes⟩ :=
      step_of_registerLoad secondFetch load secondSucceeded
    refine ⟨fetched.after_writes firstWrites secondWrites, ?_, ?_⟩
    · intro register above
      rw [firstKept register above, secondKept register above, register_eq registers]
    · intro address outside
      rw [firstBytes address outside, secondBytes address (index ▸ outside), memory]

/--
The two readings agree but for three operations.  Two machines that differ in
the semantics only, driven by the same actions, answer every step alike and
stay equal in everything else as long as no copy, offset jump or register load
has succeeded; the first one that succeeds parts them only in what it may write.
-/
theorem readings_agree_until_ambiguous
    (first second : Machine)
    (actions : List Action)
    (agrees : first.AgreesOutside second [.semantics])
    (unambiguous : ∀ word ∈ first.executedWords actions, Word.Unambiguous word) :
    List.Forall₂ (Alike [.semantics])
        (first.stepReplies actions) (second.stepReplies actions) ∧
      ∀ last, first.performAll? actions = some last →
        ∃ other, second.performAll? actions = some other ∧
          last.AgreesOutside other [.semantics] ∧
          last.step.result = other.step.result ∧
          ∀ word, last.memory.readWord last.pc.toNat = .ok word →
            last.step.result = .ok () →
            last.PartedBy word last.step.state other.step.state := by
  have hideable : [.semantics] ⊆ Component.hideable := by
    decide
  have ignores : ∀ word ∈ first.executedWords actions, Word.Ignores word [.semantics] := by
    intro word executed
    refine ⟨?_, ?_, ?_, fun _ => unambiguous word executed⟩ <;> simp
  obtain ⟨replies, ends⟩ := agrees.run hideable rfl ignores
  refine ⟨replies, ?_⟩
  intro last performed
  rw [performed] at ends
  generalize found : second.performAll? actions = reached at ends
  cases ends with
  | some together =>
      have decided := together.agreesOn fun _ => not_mem_hidden_of_deciding hideable
      have result := step_result_eq_of_agreesOn decided
      refine ⟨_, rfl, together, result, ?_⟩
      intro word fetch succeeded
      exact together.partedBy fetch succeeded (result ▸ succeeded)

/-- A machine that is about to set one register and the index and then load two registers. -/
def loading : Machine :=
  loaded .referenceExact [0x60, 0x07, 0xA3, 0x00, 0xF1, 0x65]

/-- The same machine under the other reading. -/
def loadingCorrected : Machine :=
  { loading with semantics := .corrected }

/-- Two machines stay in step up to a register load, which parts them in memory and registers. -/
theorem loading_parts :
    let actions : List Action := [.step, .setKeys (Keypad.holding [2]), .tick, .step]
    loading.AgreesOutside loadingCorrected [.semantics] ∧
      (∀ word ∈ loading.executedWords actions, Word.Unambiguous word) ∧
      List.Forall₂ (Alike [.semantics])
        (loading.stepReplies actions) (loadingCorrected.stepReplies actions) ∧
      ∃ last other,
        loading.performAll? actions = some last ∧
          loadingCorrected.performAll? actions = some other ∧
          last.PartedBy 0xF165 last.step.state other.step.state ∧
          last.step.state.register 0 = 7 ∧
          last.step.state.memory.read 0x300 = .ok 7 := by
  intro actions
  have agrees : loading.AgreesOutside loadingCorrected [.semantics] := by
    intro component seen
    cases component with
    | semantics => exact (seen (by decide)).elim
    | _ => rfl
  have checked :
      (loading.executedWords actions).all (fun word => Word.Unambiguous word) = true := by
    decide +kernel
  have unambiguous : ∀ word ∈ loading.executedWords actions, Word.Unambiguous word :=
    fun word member => of_decide_eq_true (List.all_eq_true.mp checked word member)
  have run :
      (loading.performAll? actions).map
          (fun last =>
            (last.memory.readWord last.pc.toNat, last.step.result, last.step.state.register 0,
              last.step.state.memory.read 0x300)) =
        some (.ok 0xF165, .ok (), 7, .ok 7) := by
    decide +kernel
  obtain ⟨last, performed, facts⟩ := Option.map_eq_some_iff.mp run
  simp only [Prod.mk.injEq] at facts
  obtain ⟨fetch, succeeded, register, byte⟩ := facts
  obtain ⟨replies, parts⟩ :=
    readings_agree_until_ambiguous loading loadingCorrected actions agrees unambiguous
  obtain ⟨other, follows, _, _, parted⟩ := parts last performed
  exact ⟨agrees, unambiguous, replies, last, other, performed, follows,
    parted 0xF165 fetch succeeded, register, byte⟩

end Chip8.Machine
