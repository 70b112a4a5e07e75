import Chip8.Proofs.Machine.Actions
import Chip8.Proofs.Machine.Control
import Chip8.Proofs.Screen.Sprite

namespace Chip8

/-!
# Ranges of reachable machines

A return goes to an address that a call saved, a call saves an address behind a
word that was fetched, and a jump goes no further than its twelve bits and one
register reach.  So the bounds on `pc`, the stack pointer and the stack hold
together or not at all: each step preserves the three of them at once.
-/

namespace Flow

/-- No target lies above a limit, and no distance is more than one skipped word. -/
def Within
    (limit : Nat) :
    Flow → Prop
  | .onward distance => distance ≤ 4
  | .jump target => target ≤ limit
  | .enter target => target.toNat ≤ limit
  | .leave => True

/-- A skip stays within every limit. -/
theorem skipIf_within
    (condition : Bool)
    (limit : Nat) :
    (skipIf condition).Within limit := by
  cases condition <;> simp [skipIf, Within]

end Flow

namespace Machine

/-- The highest address that `pc` can hold. -/
def pcLimit : Semantics → Nat
  | .referenceExact => 0x1002
  | .corrected => 0x10FE

/-- In either reading the program counter can get behind the last word of the memory. -/
theorem le_pcLimit
    (semantics : Semantics) :
    0x1002 ≤ pcLimit semantics := by
  cases semantics <;> decide

/-- The ranges that the components of a machine keep to. -/
structure InRange (machine : Machine) : Prop where
  sp :
    machine.sp.toNat ≤ 16
  /-- What lies on the stack is an address behind a word. -/
  saved :
    ∀ (slot : Nat) (address : UInt16),
      slot < machine.sp.toNat →
      machine.stack[slot]? = some address →
      2 ≤ address.toNat ∧ address.toNat ≤ 0x1000
  /-- What was popped stays in its slot. -/
  slots :
    ∀ (slot : Nat) (address : UInt16),
      machine.stack[slot]? = some address →
      address.toNat ≤ 0x1000
  pc :
    machine.pc.toNat ≤ pcLimit machine.semantics
  pixels :
    machine.screen.Monochrome

variable {machine after : Machine} {word : UInt16} {instruction : Instruction}

/-- An instruction leads no further than its reading allows. -/
theorem flow_within
    (encoded : instruction.Encodes word) :
    (machine.flow instruction).Within (pcLimit machine.semantics) := by
  have operand := Word.address_toNat_le word
  have limit := le_pcLimit machine.semantics
  cases instruction with
  | jump address =>
      obtain ⟨_, rfl⟩ := encoded
      show (Word.address word).toNat ≤ pcLimit machine.semantics
      omega
  | call address =>
      obtain ⟨_, rfl⟩ := encoded
      show (Word.address word).toNat ≤ pcLimit machine.semantics
      omega
  | jumpOffset address =>
      obtain ⟨_, rfl⟩ := encoded
      have byte := (machine.register 0).toNat_lt
      unfold flow
      cases machine.semantics with
      | referenceExact => exact (by decide : 2 ≤ 4)
      | corrected =>
          show (machine.register 0).toNat + (Word.address word).toNat ≤ 0x10FE
          omega
  | waitForKey x =>
      show (if machine.keypad.firstDown?.isSome then 2 else 0) ≤ 4
      split <;> decide
  | skipIfEqualByte x byte => exact Flow.skipIf_within _ _
  | skipIfUnequalByte x byte => exact Flow.skipIf_within _ _
  | skipIfEqual x y => exact Flow.skipIf_within _ _
  | skipIfUnequal x y => exact Flow.skipIf_within _ _
  | skipIfKeyDown x => exact Flow.skipIf_within _ _
  | skipIfKeyUp x => exact Flow.skipIf_within _ _
  | returnFromCall => trivial
  | _ => exact (by decide : 2 ≤ 4)

/-- A word leads no further than its reading allows, whether it is an instruction or not. -/
theorem flowOfWord_within
    (machine : Machine)
    (word : UInt16) :
    (machine.flowOfWord word).Within (pcLimit machine.semantics) := by
  unfold flowOfWord
  split
  next instruction decoded =>
    exact flow_within (Instruction.encodes_of_decode? decoded)
  next =>
    exact (by decide : 2 ≤ 4)

/-- A slot of a stack that was written once holds what was written or what it held before. -/
theorem getElem?_set_eq_some
    {stack : Vector UInt16 stackDepth}
    {top slot : Nat}
    {saved address : UInt16}
    {free : top < stackDepth}
    (found : (stack.set top saved free)[slot]? = some address) :
    (slot = top ∧ address = saved) ∨ (slot ≠ top ∧ stack[slot]? = some address) := by
  by_cases same : slot = top
  · subst slot
    rw [Vector.getElem?_set_self] at found
    exact .inl ⟨rfl, (Option.some.inj found).symm⟩
  · rw [Vector.getElem?_set_ne _ (Ne.symm same)] at found
    exact .inr ⟨same, found⟩

/-- Control that moves within the limit stays in range. -/
theorem InRange.of_leads
    {flow : Flow}
    (inRange : machine.InRange)
    (inside : machine.pc.toNat ≤ 0xFFE)
    (leads : machine.Leads after flow)
    (within : flow.Within (pcLimit machine.semantics))
    (semantics : after.semantics = machine.semantics)
    (pixels : after.screen.Monochrome) :
    after.InRange := by
  have limit := le_pcLimit machine.semantics
  have saved := inRange.saved
  have slots := inRange.slots
  cases leads with
  | onward pc sp stack =>
      have short : _ ≤ 4 := within
      rw [← sp, ← stack] at saved
      rw [← stack] at slots
      exact ⟨sp ▸ inRange.sp, saved, slots, by rw [semantics]; omega, pixels⟩
  | jump pc sp stack =>
      rw [← sp, ← stack] at saved
      rw [← stack] at slots
      exact ⟨sp ▸ inRange.sp, saved, slots, by rw [semantics, pc]; exact within, pixels⟩
  | enter free resumes pc sp stack =>
      refine ⟨by rw [sp]; exact free, ?_, ?_, by rw [semantics, pc]; exact within, pixels⟩
      · intro slot address below found
        rw [stack] at found
        rcases getElem?_set_eq_some found with ⟨_, rfl⟩ | ⟨other, before⟩
        · omega
        · exact saved slot address (by omega) before
      · intro slot address found
        rw [stack] at found
        rcases getElem?_set_eq_some found with ⟨_, rfl⟩ | ⟨_, before⟩
        · omega
        · exact slots slot address before
  | leave pc sp stack =>
      -- The counter gets what stands in a slot, and that is bounded in every slot.
      have occupied := inRange.sp
      have popped := slots _ _ pc
      refine ⟨by omega, ?_, ?_, by rw [semantics]; omega, pixels⟩
      · intro slot address below found
        rw [stack] at found
        exact saved slot address (by omega) found
      · rw [stack]
        exact slots

/-- Only two instructions write the screen. -/
theorem screen_mem_writes
    {semantics : Semantics}
    (written : .screen ∈ instruction.writes semantics) :
    instruction = .clearScreen ∨ ∃ x y rows, instruction = .draw x y rows := by
  cases instruction <;> cases semantics <;> simp_all [Instruction.writes]

/-- Instructions leave pixels dark or lit. -/
theorem execute_monochrome
    (monochrome : machine.screen.Monochrome)
    (instruction : Instruction) :
    (machine.execute instruction).state.screen.Monochrome := by
  by_cases written : .screen ∈ instruction.writes machine.semantics
  · rcases screen_mem_writes written with rfl | ⟨x, y, rows, rfl⟩
    · exact Screen.blank_monochrome
    · rw [execute, drawSprite]
      split
      next => exact Screen.draw_monochrome monochrome _ _ _
      next => exact monochrome
  · rw [(machine.execute_changesOnly instruction).screen_eq written]
    exact monochrome

/-- Every step, whether it succeeds or not, keeps a machine in range. -/
theorem InRange.step
    (inRange : machine.InRange) :
    machine.step.state.InRange := by
  rcases machine.step_cases with
    ⟨_, _, _, state⟩ | ⟨word, fetch, _, _, succeeded, state⟩ |
      ⟨word, instruction, fetch, _, _, _, succeeded, state⟩
  · rw [state]
    exact inRange
  · obtain ⟨_, _, leads⟩ := step_leads succeeded
    refine inRange.of_leads (pc_toNat_le_of_fetch fetch) leads (flowOfWord_within _ _)
      machine.step_semantics ?_
    rw [state]
    exact inRange.pixels
  · obtain ⟨_, _, leads⟩ := step_leads succeeded
    refine inRange.of_leads (pc_toNat_le_of_fetch fetch) leads (flowOfWord_within _ _)
      machine.step_semantics ?_
    have pixels : (machine.fetched word).screen.Monochrome := inRange.pixels
    rw [state]
    exact execute_monochrome pixels instruction

/-- A machine at power-on is in range. -/
theorem powerOn_inRange
    (semantics : Semantics)
    (random : RandomStream) :
    (powerOn semantics random).InRange where
  sp :=
    Nat.zero_le _
  saved slot _ below _ :=
    absurd below (Nat.not_lt_zero slot)
  slots slot address found := by
    obtain ⟨_, rfl⟩ := Vector.getElem?_eq_some_iff.mp found
    simp [powerOn]
  pc :=
    Nat.le_trans (by decide : programStart ≤ 0x1002) (le_pcLimit semantics)
  pixels :=
    Screen.blank_monochrome

/-- Every action keeps a machine in range. -/
theorem InRange.perform
    {action : Action}
    (inRange : machine.InRange)
    (performed : machine.perform? action = some after) :
    after.InRange := by
  cases action with
  | step =>
      obtain ⟨_, rfl⟩ := perform?_step_eq_some_iff.mp performed
      exact inRange.step
  | load program =>
      cases performed
      unfold loadProgram
      split <;> exact { inRange with }
  | reset =>
      obtain rfl : machine.reset = after := Option.some.inj performed
      rw [reset_eq_powerOn]
      exact powerOn_inRange machine.semantics machine.random
  | setKeys keypad =>
      cases performed
      exact { inRange with }
  | tick =>
      cases performed
      exact { inRange with }
  | reseed random =>
      cases performed
      exact { inRange with }

/-- Every reachable machine is in range. -/
theorem Reachable.inRange
    (reachable : machine.Reachable) :
    machine.InRange :=
  reachable.invariant powerOn_inRange (fun _ _ _ inRange performed => inRange.perform performed)

/-- The number that an instruction computes for the index by more than a copy, if it does. -/
def indexTarget?
    (machine : Machine) :
    Instruction → Option Nat
  | .jumpOffset address =>
      match machine.semantics with
      | .referenceExact => some ((machine.register 0).toNat + address.toNat)
      | .corrected => none
  | .glyphAddress x => some (0x050 + 5 * (machine.register x).toNat)
  | _ => none

/--
A step computes with no number that does not fit its width: `pc` moves past the
word, control moves and an address is put into the index as if numbers had no
width.
-/
structure StepsExactly (machine : Machine) : Prop where
  fetch :
    ∀ word,
      machine.memory.readWord machine.pc.toNat = .ok word →
      (machine.fetched word).pc.toNat = machine.pc.toNat + 2
  control :
    ∀ word,
      machine.memory.readWord machine.pc.toNat = .ok word →
      machine.step.result = .ok () →
      machine.Leads machine.step.state (machine.flowOfWord word)
  index :
    ∀ word instruction target,
      machine.memory.readWord machine.pc.toNat = .ok word →
      Instruction.decode? word = some instruction →
      machine.indexTarget? instruction = some target →
      machine.step.state.index.toNat = target

/--
An instruction that computes an index leaves exactly what it computes, without
wrapping around.
-/
theorem step_index
    {target : Nat}
    (fetch : machine.memory.readWord machine.pc.toNat = .ok word)
    (decoded : Instruction.decode? word = some instruction)
    (computed : machine.indexTarget? instruction = some target) :
    machine.step.state.index.toNat = target := by
  have encoded := Instruction.encodes_of_decode? decoded
  cases instruction with
  | jumpOffset address =>
      obtain ⟨_, rfl⟩ := encoded
      have operand := Word.address_toNat_le word
      have byte := (machine.register 0).toNat_lt
      cases semantics : machine.semantics with
      | corrected => simp [indexTarget?, semantics] at computed
      | referenceExact =>
          have same : (machine.fetched word).semantics = .referenceExact :=
            semantics
          simp only [indexTarget?, semantics, Option.some.injEq] at computed
          rw [(step_of_runs fetch decoded rfl).2]
          simp only [execute, same]
          show ((machine.register 0).toUInt16 + Word.address word).toNat = target
          rw [UInt16.toNat_add, UInt8.toNat_toUInt16, ← computed]
          exact Nat.mod_eq_of_lt (by show _ < 65536; omega)
  | glyphAddress x =>
      have byte := (machine.register x).toNat_lt
      rw [(step_of_runs fetch decoded rfl).2]
      show (UInt16.ofNat (glyphStart + (machine.register x).toNat * glyphSize)).toNat = target
      obtain rfl := Option.some.inj computed
      rw [UInt16.toNat_ofNat', glyphStart, glyphSize]
      omega
  | _ => cases computed

/-- Every machine computes the index and the program counter exactly. -/
theorem stepsExactly
    (machine : Machine) :
    machine.StepsExactly where
  fetch _ fetch :=
    fetched_pc_toNat fetch
  control word fetch succeeded := by
    obtain ⟨found, found_fetch, leads⟩ := step_leads succeeded
    obtain rfl := Except.ok.inj (fetch.symm.trans found_fetch)
    exact leads
  index _ _ _ fetch decoded computed :=
    step_index fetch decoded computed

/--
The ranges of reachable machines.  Whatever a host does and a program runs, the
stack pointer, the saved addresses, `pc` and the pixels stay in range, and a
step from there does not wrap any number around.
-/
theorem reachable_inRange
    (machine : Machine)
    (reachable : machine.Reachable) :
    machine.InRange ∧ machine.StepsExactly :=
  ⟨reachable.inRange, machine.stepsExactly⟩

/-- A call, and from there a jump as far as a jump can go. -/
def farJump : List Action :=
  [.load [0x22, 0x02, 0x60, 0xFF, 0xBF, 0xFF], .step, .step, .step]

/-- The jump ends at the limit, and the address that the call saved stays in range. -/
theorem farJump_inRange :
    ∃ machine : Machine,
      (powerOn .corrected (RandomStream.ofSeed 0)).performAll? farJump = some machine ∧
        machine.pc.toNat = 0x10FE ∧ machine.sp = 1 ∧
        machine.InRange ∧ machine.StepsExactly := by
  have run :
      ((powerOn .corrected (RandomStream.ofSeed 0)).performAll? farJump).map
          (fun machine => (machine.pc.toNat, machine.sp)) =
        some (0x10FE, 1) := by
    decide +kernel
  obtain ⟨machine, performed, ends⟩ := Option.map_eq_some_iff.mp run
  obtain ⟨pc, sp⟩ := Prod.mk.inj ends
  obtain ⟨inRange, exactly⟩ := reachable_inRange machine ⟨_, _, _, performed⟩
  exact ⟨machine, performed, pc, sp, inRange, exactly⟩

end Machine

end Chip8
