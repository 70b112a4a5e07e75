import Chip8.Proofs.Machine.Footprint

namespace Chip8

/-!
# Arithmetic

An arithmetic word reads both operands before it writes anything, then writes
the flag and then the result.  So the flag may be an operand, the result wins
where the flag is also the destination, and both say what the operands were as
numbers, however the three registers coincide.
-/

/-- The word is the operation of group `8` that its low four bits number. -/
def Word.IsOperation
    (word : UInt16)
    (number : Fin 16) :
    Prop :=
  group word = 0x8 ∧ low word = number

namespace Machine

/-- A reply that succeeds with a result in one register and leaves the others. -/
structure SetsOnly
    (before : Machine)
    (x : Register)
    (result : Int)
    (reply : Reply Machine (Except Stop Unit)) :
    Prop where
  succeeds :
    reply.result = .ok ()
  result :
    (reply.state.register x).toNat = result
  others :
    ∀ register,
      register ≠ x →
      reply.state.register register = before.register register

/--
A reply that succeeds with a result in one register, notes in the flag whether
a condition holds, unless the result is there, and leaves the other registers.
-/
structure SetsFlagged
    (before : Machine)
    (x : Register)
    (result : Int)
    (condition : Prop)
    [Decidable condition]
    (reply : Reply Machine (Except Stop Unit)) :
    Prop where
  succeeds :
    reply.result = .ok ()
  result :
    (reply.state.register x).toNat = result
  flag :
    x ≠ 0xF →
    reply.state.register 0xF = if condition then 1 else 0
  others :
    ∀ register,
      register ≠ x →
      register ≠ 0xF →
      reply.state.register register = before.register register

/-- What a word makes of its operands `a` and `b`, one law for each arithmetic operation. -/
structure Calculates
    (before : Machine)
    (word : UInt16)
    (x : Register)
    (a b : Nat)
    (reply : Reply Machine (Except Stop Unit)) :
    Prop where
  /-- The second operand of `7xkk` is the byte of the word. -/
  addByte :
    Word.group word = 0x7 →
    before.SetsOnly x ((a + (Word.byte word).toNat) % 256) reply
  or :
    Word.IsOperation word 0x1 →
    before.SetsOnly x (a ||| b : Nat) reply
  and :
    Word.IsOperation word 0x2 →
    before.SetsOnly x (a &&& b : Nat) reply
  xor :
    Word.IsOperation word 0x3 →
    before.SetsOnly x (a ^^^ b : Nat) reply
  add :
    Word.IsOperation word 0x4 →
    before.SetsFlagged x ((a + b) % 256) (255 < a + b) reply
  subtract :
    Word.IsOperation word 0x5 →
    before.SetsFlagged x ((a - b) % 256) (b < a) reply
  shiftRight :
    Word.IsOperation word 0x6 →
    before.SetsFlagged x (a / 2) (a % 2 = 1) reply
  subtractFrom :
    Word.IsOperation word 0x7 →
    before.SetsFlagged x ((b - a) % 256) (a < b) reply
  shiftLeft :
    Word.IsOperation word 0xE →
    before.SetsFlagged x (2 * a % 256) (128 ≤ a) reply

/-- A bit is one where what it notes holds. -/
theorem bit_eq
    {noted condition : Prop}
    [Decidable noted]
    [Decidable condition]
    (same : noted ↔ condition) :
    bit (decide noted) = if condition then 1 else 0 := by
  simp only [bit, decide_eq_true_eq, same]

/-- A difference of bytes is the difference of the numbers, reduced to a byte. -/
theorem sub_toNat_eq_emod
    (a b : UInt8) :
    ((a - b).toNat : Int) = (a.toNat - b.toNat) % 256 := by
  have aBound := a.toNat_lt
  have bBound := b.toNat_lt
  rw [UInt8.toNat_sub]
  omega

/-- The lowest bit of a byte tells whether it is odd. -/
theorem and_one_eq_ite
    (a : UInt8) :
    a &&& 1 = if a.toNat % 2 = 1 then 1 else 0 := by
  have remainder : (a &&& 1).toNat = a.toNat % 2 := by
    rw [UInt8.toNat_and]
    exact Nat.and_one_is_mod a.toNat
  apply UInt8.toNat_inj.mp
  rw [remainder]
  split
  next odd => exact odd
  next even => exact Nat.mod_two_ne_one.mp even

/-- The highest bit of a byte tells whether it is in the upper half. -/
theorem shiftRight_seven_eq_ite
    (a : UInt8) :
    a >>> 7 = if 128 ≤ a.toNat then 1 else 0 := by
  have bound := a.toNat_lt
  have quotient : (a >>> 7).toNat = a.toNat / 128 := by
    rw [UInt8.toNat_shiftRight]
    exact Nat.shiftRight_eq_div_pow a.toNat 7
  apply UInt8.toNat_inj.mp
  rw [quotient]
  split
  next upper => exact Nat.div_eq_of_lt_le upper bound
  next lower => exact Nat.div_eq_of_lt (Nat.not_le.mp lower)

variable {machine : Machine} {word : UInt16} {x : Register} {value flag : UInt8} {result : Int}

/-- A step on an instruction that replaces one register. -/
theorem step_setsOnly
    (fetch : machine.memory.readWord machine.pc.toNat = .ok word)
    (instruction : Instruction)
    (encoded : instruction.Encodes word)
    (runs : machine.stop? instruction = none)
    (writes :
      ((machine.fetched word).execute instruction).state =
        (machine.fetched word).setRegister x value)
    (computed : value.toNat = result) :
    machine.SetsOnly x result machine.step := by
  obtain ⟨succeeded, state⟩ :=
    step_of_runs fetch (Instruction.decode?_of_encodes encoded) runs
  rw [writes] at state
  refine ⟨succeeded, ?_, ?_⟩
  · rw [state, register_setRegister, if_pos rfl, computed]
  · intro register other
    rw [state, register_setRegister, if_neg other]
    rfl

/-- A step on an instruction that replaces one register and the flag. -/
theorem step_setsFlagged
    {condition : Prop}
    [Decidable condition]
    (fetch : machine.memory.readWord machine.pc.toNat = .ok word)
    (instruction : Instruction)
    (encoded : instruction.Encodes word)
    (runs : machine.stop? instruction = none)
    (writes :
      ((machine.fetched word).execute instruction).state =
        (machine.fetched word).setFlagged x value flag)
    (computed : value.toNat = result)
    (noted : flag = if condition then 1 else 0) :
    machine.SetsFlagged x result condition machine.step := by
  obtain ⟨succeeded, state⟩ :=
    step_of_runs fetch (Instruction.decode?_of_encodes encoded) runs
  rw [writes] at state
  refine ⟨succeeded, ?_, ?_, ?_⟩
  · rw [state, setFlagged, register_setRegister, if_pos rfl, computed]
  · intro apart
    rw [state, setFlagged, register_setRegister, if_neg (Ne.symm apart), register_setRegister]
    exact noted
  · intro register other unflagged
    rw [state, register_setFlagged_of_ne _ _ _ other unflagged]
    rfl

/--
The arithmetic of a step, for any operands and for any of the registers `x`,
`y` and the flag being the same.  The operands are the values before the step.
-/
theorem step_calculates
    (machine : Machine)
    (word : UInt16)
    (fetch : machine.memory.readWord machine.pc.toNat = .ok word) :
    let a := machine.register (Word.x word)
    let b := machine.register (Word.y word)
    machine.Calculates word (Word.x word) a.toNat b.toNat machine.step where
  addByte group := by
    refine step_setsOnly fetch (.addByte _ _) ⟨group, rfl, rfl⟩ rfl rfl ?_
    rw [UInt8.toNat_add]
    rfl
  or holds := by
    refine step_setsOnly fetch (.or _ _) ⟨holds.1, holds.2, rfl, rfl⟩ rfl rfl ?_
    rw [UInt8.toNat_or]
    rfl
  and holds := by
    refine step_setsOnly fetch (.and _ _) ⟨holds.1, holds.2, rfl, rfl⟩ rfl rfl ?_
    rw [UInt8.toNat_and]
    rfl
  xor holds := by
    refine step_setsOnly fetch (.xor _ _) ⟨holds.1, holds.2, rfl, rfl⟩ rfl rfl ?_
    rw [UInt8.toNat_xor]
    rfl
  add holds := by
    refine step_setsFlagged fetch (.add _ _) ⟨holds.1, holds.2, rfl, rfl⟩ rfl rfl ?_
      (bit_eq .rfl)
    rw [UInt8.toNat_add]
    rfl
  subtract holds :=
    step_setsFlagged fetch (.subtract _ _) ⟨holds.1, holds.2, rfl, rfl⟩ rfl rfl
      (sub_toNat_eq_emod _ _) (bit_eq UInt8.lt_iff_toNat_lt)
  shiftRight holds := by
    refine step_setsFlagged fetch (.shiftRight _) ⟨holds.1, holds.2, rfl⟩ rfl rfl ?_
      (and_one_eq_ite _)
    rw [UInt8.toNat_shiftRight]
    rfl
  subtractFrom holds :=
    step_setsFlagged fetch (.subtractFrom _ _) ⟨holds.1, holds.2, rfl, rfl⟩ rfl rfl
      (sub_toNat_eq_emod _ _) (bit_eq UInt8.lt_iff_toNat_lt)
  shiftLeft holds := by
    refine step_setsFlagged fetch (.shiftLeft _) ⟨holds.1, holds.2, rfl⟩ rfl rfl ?_
      (shiftRight_seven_eq_ite _)
    rw [UInt8.toNat_shiftLeft, Nat.shiftLeft_eq, Nat.mul_comm]
    rfl

/-- A machine about to subtract the flag from a register and then a register from the flag. -/
def borrowing : Machine :=
  ((bare .corrected [0x81, 0xF5, 0x8F, 0x15]).setRegister 1 5).setRegister 0xF 9

/-- The flag is subtracted before it is cleared, and holds the result where it is the destination. -/
theorem borrowing_calculates :
    let after := borrowing.step.state
    (after.register 1).toNat = (252 : Int) ∧
      after.register 0xF = 0 ∧
      (after.step.state.register 0xF).toNat = (4 : Int) ∧
      after.step.state.register 1 = after.register 1 := by
  intro after
  have fetches :
      borrowing.memory.readWord borrowing.pc.toNat = .ok 0x81F5 ∧
        after.memory.readWord after.pc.toNat = .ok 0x8F15 := by
    decide +kernel
  have first := (step_calculates borrowing 0x81F5 fetches.1).subtract ⟨rfl, rfl⟩
  have second := (step_calculates after 0x8F15 fetches.2).subtract ⟨rfl, rfl⟩
  refine ⟨?_, ?_, ?_, ?_⟩
  · exact first.result.trans (by decide +kernel)
  · exact (first.flag (by decide)).trans (by decide +kernel)
  · exact second.result.trans (by decide +kernel)
  · exact second.others 1 (by decide) (by decide)

end Machine

end Chip8
