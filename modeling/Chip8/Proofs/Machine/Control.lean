import Chip8.Proofs.Machine.Effects
import Chip8.Proofs.Machine.Outcome

namespace Chip8

/-!
# Where control goes

A step that succeeds goes on behind its word, skips the next one, stays where
it is, jumps, enters a subroutine or leaves one.  Which of these it does is
read off the word, the registers and the keypad.  What it makes of `pc`, the
stack pointer and the stack is said in numbers without a width, so a step that
does it has not wrapped around.
-/

/-- Where a step sends control. -/
inductive Flow where
  /-- To so many bytes past the step's own address. -/
  | onward (distance : Nat)
  | jump (target : Nat)
  | enter (target : UInt16)
  | leave

namespace Flow

/-- Over the next word when a condition holds, and otherwise to it. -/
def skipIf (condition : Bool) : Flow :=
  .onward (if condition then 4 else 2)

end Flow

namespace Word

/-- The address operand has twelve bits. -/
theorem address_toNat_le
    (word : UInt16) :
    (address word).toNat ≤ 0xFFF := by
  rw [address, UInt16.toNat_and]
  exact Nat.and_le_right

end Word

namespace Machine

/-- Where an instruction sends a machine that does not stop on it. -/
def flow
    (machine : Machine) :
    Instruction → Flow
  | .returnFromCall => .leave
  | .jump address => .jump address.toNat
  | .call address => .enter address
  | .skipIfEqualByte x byte => .skipIf (machine.register x == byte)
  | .skipIfUnequalByte x byte => .skipIf (machine.register x != byte)
  | .skipIfEqual x y => .skipIf (machine.register x == machine.register y)
  | .skipIfUnequal x y => .skipIf (machine.register x != machine.register y)
  | .skipIfKeyDown x => .skipIf (machine.keypad.down[(machine.register x).toNat]? == some true)
  | .skipIfKeyUp x => .skipIf (machine.keypad.down[(machine.register x).toNat]? == some false)
  | .waitForKey _ => .onward (if machine.keypad.firstDown?.isSome then 2 else 0)
  | .jumpOffset address =>
      match machine.semantics with
      | .corrected => .jump ((machine.register 0).toNat + address.toNat)
      | .referenceExact => .onward 2
  | _ => .onward 2

/-- Where a word sends a machine; one that names no operation is passed over. -/
def flowOfWord
    (machine : Machine)
    (word : UInt16) :
    Flow :=
  match Instruction.decode? word with
  | some instruction => machine.flow instruction
  | none => .onward 2

/-- Control moves from one machine to the next as a flow says. -/
inductive Leads (before after : Machine) : Flow → Prop where
  | onward
      {distance : Nat}
      (pc : after.pc.toNat = before.pc.toNat + distance)
      (sp : after.sp = before.sp)
      (stack : after.stack = before.stack) :
      Leads before after (.onward distance)
  | jump
      {target : Nat}
      (pc : after.pc.toNat = target)
      (sp : after.sp = before.sp)
      (stack : after.stack = before.stack) :
      Leads before after (.jump target)
  | enter
      {target saved : UInt16}
      (free : before.sp.toNat < stackDepth)
      (resumes : saved.toNat = before.pc.toNat + 2)
      (pc : after.pc = target)
      (sp : after.sp.toNat = before.sp.toNat + 1)
      (stack : after.stack = before.stack.set before.sp.toNat saved free) :
      Leads before after (.enter target)
  | leave
      (pc : before.stack[after.sp.toNat]? = some after.pc)
      (sp : after.sp.toNat + 1 = before.sp.toNat)
      (stack : after.stack = before.stack) :
      Leads before after .leave

variable {machine : Machine} {word : UInt16} {instruction : Instruction}

/-- Only a call enters a subroutine. -/
theorem flow_eq_enter_iff
    {target : UInt16} :
    machine.flow instruction = .enter target ↔ instruction = .call target := by
  cases instruction with
  | jumpOffset address => cases semantics : machine.semantics <;> simp [flow, semantics]
  | _ => simp [flow, Flow.skipIf]

/-- Only a return leaves a subroutine. -/
theorem flow_eq_leave_iff :
    machine.flow instruction = .leave ↔ instruction = .returnFromCall := by
  cases instruction with
  | jumpOffset address => cases semantics : machine.semantics <;> simp [flow, semantics]
  | _ => simp [flow, Flow.skipIf]

/-- A word enters a subroutine exactly when it is a call, at the address that it names. -/
theorem flowOfWord_eq_enter_iff
    {target : UInt16} :
    machine.flowOfWord word = .enter target ↔
      Word.IsCall word ∧ target = Word.address word := by
  have encodes :
      Instruction.decode? word = some (.call target) ↔
        Word.IsCall word ∧ target = Word.address word :=
    Instruction.decode?_eq_some_iff
  rw [← encodes, flowOfWord]
  cases Instruction.decode? word with
  | none => simp
  | some instruction => simp [flow_eq_enter_iff]

/-- A word leaves a subroutine exactly when it is a return. -/
theorem flowOfWord_eq_leave_iff :
    machine.flowOfWord word = .leave ↔ Word.IsReturn word := by
  have encodes :
      Instruction.decode? word = some .returnFromCall ↔ Word.IsReturn word :=
    Instruction.decode?_eq_some_iff
  rw [← encodes, flowOfWord]
  cases Instruction.decode? word with
  | none => simp
  | some instruction => simp [flow_eq_leave_iff]

/-- A word can only be fetched where both its bytes lie inside memory. -/
theorem pc_toNat_le_of_fetch
    (fetch : machine.memory.readWord machine.pc.toNat = .ok word) :
    machine.pc.toNat ≤ 0xFFE := by
  refine Nat.le_of_not_lt fun outside => ?_
  rw [machine.memory.readWord_of_outside (Nat.succ_le_succ outside)] at fetch
  cases fetch

/-- Moving past a fetched word does not wrap around. -/
theorem fetched_pc_toNat
    (fetch : machine.memory.readWord machine.pc.toNat = .ok word) :
    (machine.fetched word).pc.toNat = machine.pc.toNat + 2 := by
  have inside := pc_toNat_le_of_fetch fetch
  show (machine.pc + 2).toNat = machine.pc.toNat + 2
  rw [UInt16.toNat_add]
  exact Nat.mod_eq_of_lt (by show machine.pc.toNat + 2 < 65536; omega)

/-- An instruction that writes none of `pc`, `sp` and the stack leads on to the next word. -/
theorem leads_next
    (fetch : machine.memory.readWord machine.pc.toNat = .ok word)
    {after : Machine}
    {written : List Component}
    (changes : (machine.fetched word).ChangesOnly after written)
    (untouched : .pc ∉ written ∧ .sp ∉ written ∧ .stack ∉ written) :
    machine.Leads after (.onward 2) := by
  obtain ⟨pc, sp, stack⟩ := untouched
  refine .onward ?_ (changes.sp_eq sp) (changes.stack_eq stack)
  rw [changes.pc_eq pc]
  exact fetched_pc_toNat fetch

/-- Skipping on a condition leads to the next instruction or to the one behind it. -/
theorem skipIf_leads
    (fetch : machine.memory.readWord machine.pc.toNat = .ok word)
    (condition : Bool) :
    machine.Leads ((machine.fetched word).skipIf condition) (.skipIf condition) := by
  have inside := pc_toNat_le_of_fetch fetch
  have next := fetched_pc_toNat fetch
  rw [skipIf_eq]
  refine .onward ?_ rfl rfl
  cases condition with
  | false =>
      exact next
  | true =>
      show ((machine.fetched word).pc + 2).toNat = machine.pc.toNat + 4
      rw [UInt16.toNat_add, next]
      exact Nat.mod_eq_of_lt (by show machine.pc.toNat + 4 < 65536; omega)

/-- A skip on a key is a skip on whether that key is in the position. -/
theorem skipIfKey_state
    (machine : Machine)
    (x : Register)
    (position : Bool) :
    (machine.skipIfKey x position).state =
      machine.skipIf (machine.keypad.down[(machine.register x).toNat]? == some position) := by
  unfold skipIfKey Keypad.isDown
  cases machine.keypad.down[(machine.register x).toNat]? <;> rfl

/-- Waiting for a key leads on when one is down, and otherwise to the same instruction again. -/
theorem awaitKey_leads
    (fetch : machine.memory.readWord machine.pc.toNat = .ok word)
    (x : Register) :
    machine.Leads ((machine.fetched word).awaitKey x).state
      (.onward (if machine.keypad.firstDown?.isSome then 2 else 0)) := by
  have keypad : (machine.fetched word).keypad.firstDown? = machine.keypad.firstDown? :=
    rfl
  unfold awaitKey
  rw [keypad]
  cases machine.keypad.firstDown? with
  | some key =>
      exact .onward (fetched_pc_toNat fetch) rfl rfl
  | none =>
      refine .onward ?_ rfl rfl
      show (machine.pc + 2 - 2).toNat = machine.pc.toNat
      rw [UInt16.add_sub_cancel]

/-- A jump with an offset leads where its reading says: to the sum, or on to the next word. -/
theorem jumpOffset_leads
    (fetch : machine.memory.readWord machine.pc.toNat = .ok word)
    {address : UInt16}
    (small : address.toNat ≤ 0xFFF) :
    machine.Leads ((machine.fetched word).execute (.jumpOffset address)).state
      (machine.flow (.jumpOffset address)) := by
  unfold execute flow
  simp only [fetched_semantics]
  cases machine.semantics with
  | referenceExact =>
      exact .onward (fetched_pc_toNat fetch) rfl rfl
  | corrected =>
      refine .jump ?_ rfl rfl
      show ((machine.register 0).toUInt16 + address).toNat = _
      rw [UInt16.toNat_add, UInt8.toNat_toUInt16]
      have byte := (machine.register 0).toNat_lt
      exact Nat.mod_eq_of_lt (by show _ < 65536; omega)

/-- A call that does not stop leads to its address, with its own address on the stack. -/
theorem pushCall_leads
    (fetch : machine.memory.readWord machine.pc.toNat = .ok word)
    (address : UInt16)
    (runs : machine.callStop? = none) :
    machine.Leads ((machine.fetched word).pushCall address).state (.enter address) := by
  have free : (machine.fetched word).sp.toNat < stackDepth := by
    unfold callStop? at runs
    split at runs
    next => cases runs
    next free => exact Nat.not_le.mp free
  unfold pushCall
  rw [dif_pos free]
  refine .enter free (fetched_pc_toNat fetch) rfl ?_ rfl
  show (machine.sp + 1).toNat = machine.sp.toNat + 1
  rw [UInt8.toNat_add]
  exact Nat.mod_eq_of_lt (Nat.lt_of_le_of_lt (Nat.succ_le_of_lt free) (by decide))

/-- A return that does not stop leads behind the call that was made last. -/
theorem popReturn_leads
    (word : UInt16)
    (runs : machine.returnStop? = none) :
    machine.Leads (machine.fetched word).popReturn.state .leave := by
  unfold returnStop? at runs
  split at runs
  next => cases runs
  next occupied =>
    split at runs
    next => cases runs
    next inside =>
      have positive : 1 ≤ machine.sp := by
        rw [UInt8.le_iff_toNat_le]
        exact Nat.one_le_iff_ne_zero.mpr fun zero => occupied (UInt8.toNat_inj.mp zero)
      -- The depth is positive, so taking one off does not wrap around.
      have popped : (machine.sp - 1).toNat = machine.sp.toNat - 1 :=
        UInt8.toNat_sub_of_le _ _ positive
      have atLeastOne : 1 ≤ machine.sp.toNat :=
        UInt8.le_iff_toNat_le.mp positive
      have slot : machine.sp.toNat - 1 < stackDepth := by
        omega
      have empty : (machine.fetched word).sp ≠ 0 :=
        occupied
      have top :
          (machine.fetched word).stack[(machine.fetched word).sp.toNat - 1]? =
            some machine.stack[machine.sp.toNat - 1] :=
        Vector.getElem?_eq_getElem slot
      unfold popReturn
      rw [if_neg empty, top]
      refine .leave ?_ ?_ rfl
      · show machine.stack[(machine.sp - 1).toNat]? = some machine.stack[machine.sp.toNat - 1]
        rw [popped]
        exact Vector.getElem?_eq_getElem slot
      · show (machine.sp - 1).toNat + 1 = machine.sp.toNat
        omega

/-- An instruction that does not stop leads where its flow says. -/
theorem execute_leads
    (fetch : machine.memory.readWord machine.pc.toNat = .ok word)
    (encoded : instruction.Encodes word)
    (runs : machine.stop? instruction = none) :
    machine.Leads ((machine.fetched word).execute instruction).state (machine.flow instruction) := by
  have changes := (machine.fetched word).execute_changesOnly instruction
  cases instruction with
  | returnFromCall => exact popReturn_leads word runs
  | call address => exact pushCall_leads fetch address runs
  | jump address => exact .jump rfl rfl rfl
  | jumpOffset address =>
      obtain ⟨_, rfl⟩ := encoded
      exact jumpOffset_leads fetch (Word.address_toNat_le word)
  | waitForKey x => exact awaitKey_leads fetch x
  | skipIfEqualByte x byte => exact skipIf_leads fetch _
  | skipIfUnequalByte x byte => exact skipIf_leads fetch _
  | skipIfEqual x y => exact skipIf_leads fetch _
  | skipIfUnequal x y => exact skipIf_leads fetch _
  | skipIfKeyDown x =>
      rw [execute, skipIfKey_state]
      exact skipIf_leads fetch _
  | skipIfKeyUp x =>
      rw [execute, skipIfKey_state]
      exact skipIf_leads fetch _
  | copy x y =>
      refine leads_next fetch changes ?_
      cases (machine.fetched word).semantics <;> simp [Instruction.writes]
  | loadRegisters x =>
      refine leads_next fetch changes ?_
      cases (machine.fetched word).semantics <;> simp [Instruction.writes]
  | _ => exact leads_next fetch changes (by simp [Instruction.writes])

/-- A step that succeeds leads where its word says. -/
theorem step_leads
    (succeeded : machine.step.result = .ok ()) :
    ∃ word, machine.memory.readWord machine.pc.toNat = .ok word ∧
      machine.Leads machine.step.state (machine.flowOfWord word) := by
  rcases machine.step_cases with
    ⟨stop, _, failed, _⟩ | ⟨word, fetch, _, undefined, _, state⟩ |
      ⟨word, instruction, fetch, _, decoded, runs, _, state⟩
  · rw [succeeded] at failed
    cases failed
  · refine ⟨word, fetch, ?_⟩
    rw [state, flowOfWord, undefined]
    exact .onward (fetched_pc_toNat fetch) rfl rfl
  · refine ⟨word, fetch, ?_⟩
    rw [state, flowOfWord, decoded]
    exact execute_leads fetch (Instruction.encodes_of_decode? decoded) runs

end Machine

end Chip8
