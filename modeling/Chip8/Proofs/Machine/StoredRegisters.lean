import Chip8.Proofs.Machine.Footprint
import Mathlib.Logic.Relation

namespace Chip8

/-!
# Registers stored and loaded

A register store writes `V0` to `Vx` to memory at the index.  As long as no
store of a run writes into that block, the run keeps it, whatever else it does
to memory, registers and index.  A load at the same index then brings back the
registers as they were at the store.  Under the exact reading the load is a
second store and leaves the registers alone.
-/

namespace Word

/-- The word stores the digits of a register, `Fx33`. -/
def IsDigitStore (word : UInt16) : Prop :=
  group word = 0xF ∧ byte word = 0x33

/-- The word stores registers, `Fx55`. -/
def IsRegisterStore (word : UInt16) : Prop :=
  group word = 0xF ∧ byte word = 0x55

end Word

namespace Machine

/-- A word stores a byte at an address: `Fx33` stores three at the index, `Fx55` one a register. -/
def StoresAt
    (machine : Machine)
    (word : UInt16)
    (address : Nat) :
    Prop :=
  machine.index.toNat ≤ address ∧
    ((Word.IsDigitStore word ∧ address < machine.index.toNat + 3) ∨
      (Word.IsRegisterStore word ∧ address ≤ machine.index.toNat + (Word.x word).val))

/--
One move of a run that stores nothing in the block of addresses from `first` to
`last`: a step that succeeds, a change of keys or a tick of the timers.
-/
inductive MovesBeside (first last : Nat) : Machine → Machine → Prop where
  | step
      {machine : Machine}
      {word : UInt16}
      (fetch : machine.memory.readWord machine.pc.toNat = .ok word)
      (succeeded : machine.step.result = .ok ())
      (beside : ∀ address, first ≤ address → address ≤ last → ¬machine.StoresAt word address) :
      MovesBeside first last machine machine.step.state
  | setKeys
      (machine : Machine)
      (keypad : Keypad) :
      MovesBeside first last machine { machine with keypad }
  | tick
      (machine : Machine) :
      MovesBeside first last machine machine.tick

/--
A machine stores registers, and a run that stores nothing in their block leads
to a machine with the same index.
-/
structure StoredBefore
    (storing : Machine)
    (word : UInt16)
    (loading : Machine) :
    Prop where
  fetch :
    storing.memory.readWord storing.pc.toNat = .ok word
  store :
    Word.IsRegisterStore word
  succeeded :
    storing.step.result = .ok ()
  run :
    Relation.ReflTransGen
      (MovesBeside storing.index.toNat (storing.index.toNat + (Word.x word).val))
      storing.step.state loading
  index :
    loading.index = storing.index

variable {machine next storing loading : Machine} {word : UInt16}

/-- A store at the index that fits puts its data there. -/
theorem storeAtIndex_getElem?
    (machine : Machine)
    {data : List UInt8}
    (fits : machine.index.toNat + data.length ≤ memorySize)
    {position : Nat}
    (within : position < data.length) :
    (machine.storeAtIndex data).state.memory.bytes[machine.index.toNat + position]? =
      data[position]? := by
  have inside :
      machine.index.toNat ≤ machine.index.toNat + position ∧
        machine.index.toNat + position < machine.index.toNat + data.length ∧
        machine.index.toNat + position < memorySize := by
    omega
  rw [storeAtIndex, Memory.writeSlice_eq, Memory.blockStop?_eq_none_iff.mpr fits]
  show (machine.memory.fill machine.index.toNat data).bytes[_]? = _
  rw [Memory.fill_getElem?, if_pos inside, Nat.add_sub_cancel_left]

/-- A store of registers that fits puts each of them at its place behind the index. -/
theorem storeRegisters_read
    (machine : Machine)
    {register last : Register}
    (fits : machine.index.toNat + (last.val + 1) ≤ memorySize)
    (within : register ≤ last) :
    (machine.storeAtIndex (machine.registersUpTo last)).state.memory.read
        (machine.index.toNat + register.val) =
      .ok (machine.register register) := by
  have listed : register.val < last.val + 1 := Nat.lt_succ_of_le within
  have value : (machine.registersUpTo last)[register.val]? = some (machine.register register) := by
    simp [registersUpTo, listed, Machine.register]
  rw [← machine.registersUpTo_length last] at fits listed
  rw [Memory.read_eq_ok_iff, machine.storeAtIndex_getElem? fits listed, value]

/-- A load that fits puts the bytes behind the index into the registers, and changes no others. -/
theorem loadRegisters_of_corrected
    (machine : Machine)
    (corrected : machine.semantics = .corrected)
    {x : Register}
    (fits : machine.index.toNat + (x.val + 1) ≤ memorySize)
    {register : Register}
    (within : register ≤ x)
    {value : UInt8}
    (held : machine.memory.read (machine.index.toNat + register.val) = .ok value) :
    (machine.execute (.loadRegisters x)).state.register register = value := by
  have listed : register.val < x.val + 1 := Nat.lt_succ_of_le within
  obtain ⟨values, read⟩ :
      ∃ values, machine.memory.slice machine.index.toNat (x.val + 1) = .ok values :=
    ⟨_, Memory.slice_eq_ok_iff.mpr ⟨fits, rfl⟩⟩
  simp only [execute, corrected, read]
  rw [Reply.done_state, register_setRegisters, Memory.getElem?_of_slice read listed,
    Memory.read_eq_ok_iff.mp held, Option.getD_some]

/-- Under the corrected semantics a word stores only where its digits or registers go. -/
theorem storesAt_of_storeLength
    (corrected : machine.semantics = .corrected)
    {address : Nat}
    (stored :
      machine.index.toNat ≤ address ∧
        address < machine.index.toNat + Word.storeLength machine.semantics word) :
    machine.StoresAt word address := by
  obtain ⟨start, stop⟩ := stored
  refine ⟨start, ?_⟩
  unfold Word.storeLength at stop
  split at stop
  next digits => exact .inl ⟨digits, stop⟩
  next =>
    split at stop
    next registers =>
      obtain ⟨group, byte | ⟨_, exact⟩⟩ := registers
      · exact .inr ⟨⟨group, byte⟩, Nat.le_of_lt_succ stop⟩
      · rw [corrected] at exact
        cases exact
    next => exact (Nat.not_lt.mpr start stop).elim

/-- A move beside a block keeps the semantics, and under the corrected one the block. -/
theorem MovesBeside.keeps
    {first last : Nat}
    (move : MovesBeside first last machine next) :
    next.semantics = machine.semantics ∧
      (machine.semantics = .corrected →
        ∀ address, first ≤ address → address ≤ last →
          next.memory.read address = machine.memory.read address) := by
  cases move with
  | setKeys => exact ⟨rfl, fun _ _ _ _ => rfl⟩
  | tick => exact ⟨rfl, fun _ _ _ _ => rfl⟩
  | step fetch succeeded beside =>
      refine ⟨machine.step_semantics, ?_⟩
      intro corrected address start stop
      have kept :=
        step_memory fetch succeeded fun stored =>
          beside address start stop (storesAt_of_storeLength corrected stored)
      rw [Memory.read, Memory.read, kept]

/-- A run beside a block keeps what one of its moves keeps. -/
theorem keeps_of_run
    {first last : Nat}
    (run : Relation.ReflTransGen (MovesBeside first last) machine next) :
    next.semantics = machine.semantics ∧
      (machine.semantics = .corrected →
        ∀ address, first ≤ address → address ≤ last →
          next.memory.read address = machine.memory.read address) := by
  induction run with
  | refl => exact ⟨rfl, fun _ _ _ _ => rfl⟩
  | tail _ move inductionHypothesis =>
      obtain ⟨semantics, block⟩ := inductionHypothesis
      obtain ⟨sameSemantics, sameBlock⟩ := move.keeps
      refine ⟨sameSemantics.trans semantics, ?_⟩
      intro corrected address start stop
      rw [sameBlock (semantics.trans corrected) address start stop,
        block corrected address start stop]

namespace StoredBefore

variable (kept : storing.StoredBefore word loading)

include kept

/-- The word that stores is decoded as storing its registers. -/
theorem decoded : Instruction.decode? word = some (.storeRegisters (Word.x word)) :=
  Instruction.decode?_of_encodes ⟨kept.store.1, kept.store.2, rfl⟩

/-- The stored registers fit behind the index. -/
theorem fits : storing.index.toNat + ((Word.x word).val + 1) ≤ memorySize :=
  Memory.blockStop?_eq_none_iff.mp
    (stop?_eq_none_of_succeeded kept.fetch kept.decoded kept.succeeded)

/-- Under the corrected semantics the block still holds the registers as they were at the store. -/
theorem read
    (corrected : storing.semantics = .corrected)
    {register : Register}
    (within : register ≤ Word.x word) :
    loading.memory.read (storing.index.toNat + register.val) = .ok (storing.register register) := by
  have corrected' : storing.step.state.semantics = .corrected :=
    storing.step_semantics.trans corrected
  rw [(keeps_of_run kept.run).2 corrected' _ (Nat.le_add_right _ _)
    (Nat.add_le_add_left within _)]
  rw [step_state_of_succeeded kept.fetch kept.decoded kept.succeeded]
  exact (storing.fetched word).storeRegisters_read kept.fits within

/-- The machine that loads has the reading of the one that stored. -/
theorem semantics : loading.semantics = storing.semantics :=
  (keeps_of_run kept.run).1.trans storing.step_semantics

/-- A load of no more registers fits behind the index, so a step on it executes it. -/
theorem step_of_load
    {loadWord : UInt16}
    (fetch : loading.memory.readWord loading.pc.toNat = .ok loadWord)
    (load : Word.IsRegisterLoad loadWord)
    (within : Word.x loadWord ≤ Word.x word) :
    loading.index.toNat + ((Word.x loadWord).val + 1) ≤ memorySize ∧
      loading.step.result = .ok () ∧
      loading.step.state =
        ((loading.fetched loadWord).execute (.loadRegisters (Word.x loadWord))).state := by
  have fits : loading.index.toNat + ((Word.x loadWord).val + 1) ≤ memorySize := by
    rw [kept.index]
    exact Nat.le_trans (Nat.add_le_add_left (Nat.succ_le_succ within) _) kept.fits
  have encoded : Instruction.Encodes loadWord (.loadRegisters (Word.x loadWord)) :=
    ⟨load.1, load.2, rfl⟩
  exact ⟨fits,
    step_of_runs fetch (Instruction.decode?_of_encodes encoded)
      (Memory.blockStop?_eq_none_iff.mpr fits)⟩

end StoredBefore

/--
The round trip of registers through memory.  Behind a store of registers and a
run that stores nothing in their block, a load of no more registers at the same
index succeeds.  Under the corrected semantics it brings back the values at the
store and changes nothing else; under the exact one it keeps the registers and
stores them again.
-/
theorem load_after_store
    {loadWord : UInt16}
    (kept : storing.StoredBefore word loading)
    (fetch : loading.memory.readWord loading.pc.toNat = .ok loadWord)
    (load : Word.IsRegisterLoad loadWord)
    (within : Word.x loadWord ≤ Word.x word) :
    let after := loading.step.state
    loading.step.result = .ok () ∧
      (storing.semantics = .corrected →
        after.memory = loading.memory ∧
          after.index = loading.index ∧
          ∀ register,
            after.register register =
              if register ≤ Word.x loadWord then
                storing.register register
              else
                loading.register register) ∧
      (storing.semantics = .referenceExact →
        after.registers = loading.registers ∧
          ∀ register ≤ Word.x loadWord,
            after.memory.read (loading.index.toNat + register.val) =
              .ok (loading.register register)) := by
  intro after
  obtain ⟨fits, succeeded, state⟩ := kept.step_of_load fetch load within
  have changes := (loading.fetched loadWord).execute_changesOnly (.loadRegisters (Word.x loadWord))
  refine ⟨succeeded, ?_, ?_⟩
  · intro corrected
    have reading : (loading.fetched loadWord).semantics = .corrected :=
      kept.semantics.trans corrected
    simp only [Instruction.writes, reading] at changes
    simp only [after, state]
    refine ⟨changes.memory_eq (by decide), changes.index_eq (by decide), ?_⟩
    intro register
    split
    next listed =>
      have held := kept.read corrected (Fin.le_trans listed within)
      rw [← kept.index] at held
      exact (loading.fetched loadWord).loadRegisters_of_corrected reading fits listed held
    next past =>
      exact ((loading.fetched loadWord).execute_loadRegisters (Word.x loadWord)).2.1 register
        (Fin.not_le.mp past)
  · intro exact
    have reading : (loading.fetched loadWord).semantics = .referenceExact :=
      kept.semantics.trans exact
    simp only [Instruction.writes, reading] at changes
    simp only [after, state]
    refine ⟨changes.registers_eq (by decide), ?_⟩
    intro register listed
    simp only [execute, reading]
    exact (loading.fetched loadWord).storeRegisters_read fits listed

/-- A machine that stores two registers, stores digits elsewhere and comes back to the index. -/
def storingTwo (semantics : Semantics) : Machine :=
  let machine :=
    bare semantics [0xF1, 0x55, 0xA0, 0x20, 0xF0, 0x33, 0x60, 0x09, 0xA0, 0x10, 0xF1, 0x65]
  { (machine.setRegister 0 7).setRegister 1 8 with index := 0x010 }

/-- The same machine after four more steps, a tick and a key, about to load the two registers. -/
def loadingTwo (semantics : Semantics) : Machine :=
  let digits := (storingTwo semantics).step.state.step.state.step.state
  let overwritten := digits.tick.step.state
  { overwritten with keypad := Keypad.holding [2] }.step.state

/-- The digits go elsewhere, so nothing is stored in the block of the two registers. -/
theorem storingTwo_storedBefore
    (semantics : Semantics) :
    (storingTwo semantics).StoredBefore 0xF155 (loadingTwo semantics) := by
  let storing := storingTwo semantics
  let stored := storing.step.state
  let elsewhere := stored.step.state
  let digits := elsewhere.step.state
  let overwritten := digits.tick.step.state
  let pressed := { overwritten with keypad := Keypad.holding [2] }
  have run :
      (storing.memory.readWord storing.pc.toNat = .ok 0xF155 ∧ storing.step.result = .ok ()) ∧
        (stored.memory.readWord stored.pc.toNat = .ok 0xA020 ∧ stored.step.result = .ok ()) ∧
        (elsewhere.memory.readWord elsewhere.pc.toNat = .ok 0xF033 ∧
          elsewhere.step.result = .ok () ∧ elsewhere.index.toNat = 0x020) ∧
        (digits.tick.memory.readWord digits.tick.pc.toNat = .ok 0x6009 ∧
          digits.tick.step.result = .ok ()) ∧
        (pressed.memory.readWord pressed.pc.toNat = .ok 0xA010 ∧ pressed.step.result = .ok ()) ∧
        (storing.index.toNat + (Word.x 0xF155).val = 0x011 ∧
          pressed.step.state.index = storing.index) := by
    cases semantics <;> decide +kernel
  obtain ⟨⟨fetch, succeeded⟩, ⟨firstFetch, firstStep⟩, ⟨secondFetch, secondStep, apart⟩,
    ⟨thirdFetch, thirdStep⟩, ⟨fourthFetch, fourthStep⟩, block, index⟩ := run
  have noStore
      {machine : Machine}
      {word : UInt16}
      (group : Word.group word ≠ 0xF)
      (address : Nat) :
      ¬machine.StoresAt word address := by
    rintro ⟨_, ⟨digits, _⟩ | ⟨registers, _⟩⟩
    · exact group digits.1
    · exact group registers.1
  let Beside := MovesBeside storing.index.toNat (storing.index.toNat + (Word.x 0xF155).val)
  have first : Beside stored elsewhere :=
    .step firstFetch firstStep fun address _ _ => noStore (by decide) address
  have second : Beside elsewhere digits := by
    refine .step secondFetch secondStep fun address _ last stores => ?_
    have start := stores.1
    omega
  have third : Beside digits.tick overwritten :=
    .step thirdFetch thirdStep fun address _ _ => noStore (by decide) address
  have fourth : Beside pressed pressed.step.state :=
    .step fourthFetch fourthStep fun address _ _ => noStore (by decide) address
  have ticked : Relation.ReflTransGen Beside stored digits.tick :=
    .tail (.tail (.single first) second) (.tick digits)
  have reached : loadingTwo semantics = pressed.step.state := by
    rw [loadingTwo]
  have run : Relation.ReflTransGen Beside stored pressed.step.state :=
    .tail (.tail (.tail ticked third) (.setKeys overwritten _)) fourth
  rw [reached]
  exact ⟨fetch, ⟨rfl, rfl⟩, succeeded, run, index⟩

/-- One register was overwritten in between: it comes back, or is stored with its new value. -/
theorem loadingTwo_loads :
    let corrected := (loadingTwo .corrected).step.state
    let exact := (loadingTwo .referenceExact).step.state
    (corrected.register 0 = 7 ∧ corrected.register 1 = 8 ∧
      corrected.memory = (loadingTwo .corrected).memory) ∧
    (exact.registers = (loadingTwo .referenceExact).registers ∧ exact.memory.read 0x010 = .ok 9) := by
  have run :
      (loadingTwo .corrected).memory.readWord (loadingTwo .corrected).pc.toNat = .ok 0xF165 ∧
        (loadingTwo .referenceExact).memory.readWord (loadingTwo .referenceExact).pc.toNat =
          .ok 0xF165 ∧
        (loadingTwo .referenceExact).index.toNat + (0 : Register).val = 0x010 ∧
        (loadingTwo .referenceExact).register 0 = 9 := by
    decide +kernel
  obtain ⟨correctedFetch, exactFetch, place, overwritten⟩ := run
  obtain ⟨_, loads, _⟩ :=
    load_after_store (storingTwo_storedBefore .corrected) correctedFetch ⟨rfl, rfl⟩ (by decide)
  obtain ⟨_, _, stores⟩ :=
    load_after_store (storingTwo_storedBefore .referenceExact) exactFetch ⟨rfl, rfl⟩ (by decide)
  obtain ⟨memory, _, registers⟩ := loads rfl
  obtain ⟨kept, again⟩ := stores rfl
  have block := again 0 (by decide)
  rw [place, overwritten] at block
  exact ⟨⟨registers 0, registers 1, memory⟩, kept, block⟩

end Machine

end Chip8
