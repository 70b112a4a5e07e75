import Chip8.Proofs.Machine.Control
import Chip8.Proofs.Machine.Safety
import Mathlib.Data.List.Chain

namespace Chip8

/-!
# Calls and returns

A call leaves the address behind it in the slot at its own depth.  As long as
the run stays deeper, no step can reach that slot or the ones below it, so the
step that comes back to the depth of the call resumes behind it.  Over a whole
run from power-on the depth is the number of calls less the number of returns.
-/

instance : DecidablePred Word.IsCall :=
  fun word => inferInstanceAs (Decidable (Word.group word = 0x2))

instance : DecidablePred Word.IsReturn :=
  fun word => inferInstanceAs (Decidable (Word.group word = 0x0 ∧ Word.byte word = 0xEE))

namespace Machine

/-- One move of a run: a step that succeeds, a change of keys or a tick of the timers. -/
inductive Moves : Machine → Machine → Prop where
  | step
      {machine : Machine}
      (succeeded : machine.step.result = .ok ()) :
      Moves machine machine.step.state
  | setKeys
      (machine : Machine)
      (keypad : Keypad) :
      Moves machine { machine with keypad }
  | tick
      (machine : Machine) :
      Moves machine machine.tick

/-- The stack still holds what it held when a machine called, and where to resume above it. -/
structure Pending (caller machine : Machine) : Prop where
  saved :
    ∃ address, machine.stack[caller.sp.toNat]? = some address ∧
      address.toNat = caller.pc.toNat + 2
  below :
    ∀ slot < caller.sp.toNat, machine.stack[slot]? = caller.stack[slot]?

variable {caller machine next last : Machine} {word : UInt16}

/-- A call that succeeds leaves itself pending, one level deeper. -/
theorem pending_of_call
    (fetch : caller.memory.readWord caller.pc.toNat = .ok word)
    (call : Word.IsCall word)
    (succeeded : caller.step.result = .ok ()) :
    caller.Pending caller.step.state := by
  obtain ⟨found, found_fetch, leads⟩ := step_leads succeeded
  obtain rfl := Except.ok.inj (fetch.symm.trans found_fetch)
  rw [flowOfWord_eq_enter_iff.mpr ⟨call, rfl⟩] at leads
  cases leads with
  | enter free resumes _ _ stack =>
      refine ⟨⟨_, ?_, resumes⟩, ?_⟩
      · rw [stack]
        exact Vector.getElem?_set_self _
      · intro slot below
        rw [stack]
        exact Vector.getElem?_set_ne _ (Nat.ne_of_gt below)

/-- A move from deeper than a pending call leaves the call pending. -/
theorem Pending.move
    (pending : caller.Pending machine)
    (deeper : caller.sp < machine.sp)
    (move : Moves machine next) :
    caller.Pending next := by
  cases move with
  | setKeys => exact ⟨pending.saved, pending.below⟩
  | tick => exact ⟨pending.saved, pending.below⟩
  | step succeeded =>
      obtain ⟨word, _, leads⟩ := step_leads succeeded
      generalize machine.flowOfWord word = flow at leads
      -- A step writes at most the slot at its own depth, and the pending call lies below that.
      have kept :
          ∀ slot ≤ caller.sp.toNat, machine.step.state.stack[slot]? = machine.stack[slot]? := by
        intro slot inside
        have apart : slot < machine.sp.toNat :=
          Nat.lt_of_le_of_lt inside (UInt8.lt_iff_toNat_lt.mp deeper)
        cases leads with
        | onward _ _ stack => rw [stack]
        | jump _ _ stack => rw [stack]
        | leave _ _ stack => rw [stack]
        | enter _ _ _ _ stack =>
            rw [stack]
            exact Vector.getElem?_set_ne _ (Nat.ne_of_gt apart)
      obtain ⟨⟨address, saved, resumes⟩, below⟩ := pending
      refine ⟨⟨address, ?_, resumes⟩, ?_⟩
      · rw [kept _ (Nat.le_refl _), saved]
      · intro slot inside
        rw [kept slot (Nat.le_of_lt inside), below slot inside]

/-- The move that comes back to the depth of a pending call resumes behind the call. -/
theorem Pending.resume
    (pending : caller.Pending machine)
    (deeper : caller.sp < machine.sp)
    (move : Moves machine next)
    (back : next.sp = caller.sp) :
    next.pc.toNat = caller.pc.toNat + 2 := by
  have outside : machine.sp ≠ caller.sp := by
    intro same
    rw [same] at deeper
    exact UInt8.lt_irrefl _ deeper
  cases move with
  | setKeys => exact (outside back).elim
  | tick => exact (outside back).elim
  | step succeeded =>
      obtain ⟨word, _, leads⟩ := step_leads succeeded
      generalize machine.flowOfWord word = flow at leads
      cases leads with
      | onward _ sp _ => exact (outside (sp.symm.trans back)).elim
      | jump _ sp _ => exact (outside (sp.symm.trans back)).elim
      | enter _ _ _ sp _ =>
          have := UInt8.lt_iff_toNat_lt.mp deeper
          rw [back] at sp
          omega
      | leave pc _ _ =>
          obtain ⟨address, saved, resumes⟩ := pending.saved
          rw [back, saved] at pc
          rw [← Option.some.inj pc, resumes]

/-- A call stays pending through a run at greater depth, up to and including its last state. -/
theorem Pending.run
    {between : List Machine}
    (pending : caller.Pending machine)
    (moves : (machine :: between ++ [last]).IsChain Moves)
    (deeper : ∀ inner ∈ machine :: between, caller.sp < inner.sp) :
    (∀ inner ∈ machine :: between ++ [last], caller.Pending inner) ∧
      (last.sp = caller.sp → last.pc.toNat = caller.pc.toNat + 2) := by
  have here := deeper machine List.mem_cons_self
  induction between generalizing machine with
  | nil =>
      obtain ⟨move, _⟩ := List.isChain_cons_cons.mp moves
      refine ⟨?_, pending.resume here move⟩
      intro inner member
      rcases List.mem_pair.mp member with rfl | rfl
      · exact pending
      · exact pending.move here move
  | cons second rest inductionHypothesis =>
      obtain ⟨move, later⟩ := List.isChain_cons_cons.mp moves
      have inside : ∀ inner ∈ second :: rest, caller.sp < inner.sp :=
        fun inner member => deeper inner (List.mem_cons_of_mem _ member)
      obtain ⟨stays, resumes⟩ :=
        inductionHypothesis (pending.move here move) later inside (inside second List.mem_cons_self)
      refine ⟨?_, resumes⟩
      intro inner member
      rcases List.mem_cons.mp member with rfl | member
      · exact pending
      · exact stays inner member

/-- A step that succeeds goes one level deeper on a call, and one level back on a return. -/
theorem step_depth
    (fetch : machine.memory.readWord machine.pc.toNat = .ok word)
    (succeeded : machine.step.result = .ok ()) :
    machine.step.state.sp.toNat + [word].countP (Word.IsReturn ·) =
      machine.sp.toNat + [word].countP (Word.IsCall ·) := by
  obtain ⟨found, found_fetch, leads⟩ := step_leads succeeded
  obtain rfl := Except.ok.inj (fetch.symm.trans found_fetch)
  have isCall : Word.IsCall word ↔ ∃ target, machine.flowOfWord word = .enter target := by
    simp [flowOfWord_eq_enter_iff]
  have isReturn : Word.IsReturn word ↔ machine.flowOfWord word = .leave :=
    flowOfWord_eq_leave_iff.symm
  generalize machine.flowOfWord word = flow at leads isCall isReturn
  cases leads with
  | onward _ sp _ => simp [isCall, isReturn, sp]
  | jump _ sp _ => simp [isCall, isReturn, sp]
  | enter _ _ _ sp _ => simp [isCall, isReturn, sp]
  | leave _ sp _ => simp [isCall, isReturn, sp]

/-- An action other than a reset changes the depth by the call or return that it executes. -/
theorem perform?_depth
    {action : Action}
    (performed : machine.perform? action = some next)
    (noReset : action ≠ .reset) :
    next.sp.toNat + (machine.executed? action).toList.countP (Word.IsReturn ·) =
      machine.sp.toNat + (machine.executed? action).toList.countP (Word.IsCall ·) := by
  cases action with
  | step =>
      obtain ⟨_, rfl⟩ := perform?_step_eq_some_iff.mp performed
      cases ends : machine.step.result with
      | ok =>
          obtain ⟨word, fetch, _⟩ := step_leads ends
          simp only [executed?, ends, fetch]
          exact step_depth fetch ends
      | error stop =>
          have kept : machine.step.state = machine :=
            (step_of_stop (step_result_eq_error_iff.mp ends)).2
          simp only [executed?, ends, kept]
          rfl
  | load program =>
      cases performed
      unfold loadProgram
      split <;> rfl
  | reset => exact (noReset rfl).elim
  | setKeys keypad =>
      cases performed
      rfl
  | tick =>
      cases performed
      rfl
  | reseed random =>
      cases performed
      rfl

/-- Over a run without a reset the depth grows by the calls and shrinks by the returns. -/
theorem performAll?_depth
    {actions : List Action}
    (performed : machine.performAll? actions = some last)
    (noReset : .reset ∉ actions) :
    last.sp.toNat + (machine.executedWords actions).countP (Word.IsReturn ·) =
      machine.sp.toNat + (machine.executedWords actions).countP (Word.IsCall ·) := by
  induction actions generalizing machine with
  | nil =>
      cases performed
      rfl
  | cons action rest inductionHypothesis =>
      obtain ⟨next, first, remaining⟩ := Option.bind_eq_some_iff.mp performed
      have here := perform?_depth first (List.ne_of_not_mem_cons noReset).symm
      have later := inductionHypothesis remaining (List.not_mem_of_not_mem_cons noReset)
      simp only [executedWords, first, List.countP_append]
      omega

/--
How calls and returns pair up.  When a run that begins with a call comes back
to the depth of the call for the first time, it resumes behind the call, and
the slots below were never touched.  In a run from power-on the depth is the
number of calls less the number of returns, and at most sixteen.
-/
theorem call_return_discipline :
    (∀ (caller last : Machine) (word : UInt16) (between : List Machine),
      caller.memory.readWord caller.pc.toNat = .ok word →
      Word.IsCall word →
      caller.step.result = .ok () →
      (caller.step.state :: between ++ [last]).IsChain Moves →
      (∀ inner ∈ caller.step.state :: between, caller.sp < inner.sp) →
      last.sp = caller.sp →
      last.pc.toNat = caller.pc.toNat + 2 ∧
        ∀ inner ∈ caller.step.state :: between ++ [last], ∀ slot < caller.sp.toNat,
          inner.stack[slot]? = caller.stack[slot]?) ∧
    (∀ (semantics : Semantics) (random : RandomStream) (actions : List Action) (last : Machine),
      .reset ∉ actions →
      (powerOn semantics random).performAll? actions = some last →
      let words := (powerOn semantics random).executedWords actions
      last.sp.toNat + words.countP (Word.IsReturn ·) = words.countP (Word.IsCall ·) ∧
        last.sp.toNat ≤ 16) := by
  constructor
  · intro caller last word between fetch call succeeded moves deeper back
    obtain ⟨pending, resumes⟩ :=
      (pending_of_call fetch call succeeded).run moves deeper
    exact ⟨resumes back, fun inner member => (pending inner member).below⟩
  · intro semantics random actions last noReset performed words
    have depth := performAll?_depth performed noReset
    have atPowerOn : (powerOn semantics random).sp.toNat = 0 :=
      rfl
    rw [atPowerOn, Nat.zero_add] at depth
    exact ⟨depth, Reachable.sp_le ⟨semantics, random, actions, performed⟩⟩

/-- Three calls, each inside the one before, and their returns. -/
def nestedCalls : List UInt8 :=
  [0x22, 0x04, 0x12, 0x02, 0x22, 0x08, 0x00, 0xEE, 0x22, 0x0C, 0x00, 0xEE, 0x00, 0xEE]

/-- A machine one call deep that is about to make the second call. -/
def callingTwice : Machine :=
  (loaded .corrected nestedCalls).step.state

/-- The second call comes back, through a tick, the third one and a key, to the word behind it. -/
theorem callingTwice_returns :
    let third := callingTwice.step.state.tick.step.state
    let last := { third with keypad := Keypad.holding [0xA] }.step.state.step.state
    last.pc.toNat = 0x206 ∧ last.stack[0]? = some 0x202 ∧
      ∃ final,
        (powerOn .corrected (RandomStream.ofSeed 0)).performAll?
            [.load nestedCalls, .step, .step, .step, .tick, .step] = some final ∧
          final.sp.toNat + 1 = 3 ∧ final.sp.toNat ≤ 16 := by
  intro third last
  let entered := callingTwice.step.state
  let pressed := { third with keypad := Keypad.holding [0xA] }
  let actions : List Action := [.load nestedCalls, .step, .step, .step, .tick, .step]
  -- One evaluation for all the facts about the run, which share the machines on it.
  have run :
      (callingTwice.memory.readWord callingTwice.pc.toNat = .ok 0x2208 ∧
        callingTwice.step.result = .ok () ∧ entered.tick.step.result = .ok () ∧
        pressed.step.result = .ok () ∧ pressed.step.state.step.result = .ok () ∧
        (∀ inner ∈ [entered, entered.tick, third, pressed, pressed.step.state],
          callingTwice.sp < inner.sp) ∧
        last.sp = callingTwice.sp) ∧
      (callingTwice.pc.toNat = 0x204 ∧ callingTwice.sp = 1 ∧
        callingTwice.stack[0]? = some 0x202) ∧
      ((powerOn .corrected (RandomStream.ofSeed 0)).performAll? actions).isSome ∧
      ((powerOn .corrected (RandomStream.ofSeed 0)).executedWords actions =
        [0x2204, 0x2208, 0x220C, 0x00EE]) := by
    decide +kernel
  obtain ⟨⟨fetch, calls, second, leaves, returns, deeper, back⟩, ⟨pc, sp, saved⟩, performs, words⟩ :=
    run
  have moves : [entered, entered.tick, third, pressed, pressed.step.state, last].IsChain Moves :=
    .cons_cons (.tick entered) (.cons_cons (.step second) (.cons_cons (.setKeys third _)
      (.cons_cons (.step leaves) (.cons_cons (.step returns) (.singleton last)))))
  obtain ⟨resumed, kept⟩ :=
    call_return_discipline.1 callingTwice last 0x2208
      [entered.tick, third, pressed, pressed.step.state] fetch rfl calls moves deeper back
  refine ⟨by rw [resumed, pc], ?_, ?_⟩
  · rw [kept last (by simp) 0 (by rw [sp]; decide), saved]
  · obtain ⟨final, performed⟩ := Option.isSome_iff_exists.mp performs
    have depth :=
      call_return_discipline.2 .corrected (RandomStream.ofSeed 0) actions final (by simp [actions])
        performed
    rw [words] at depth
    exact ⟨final, performed, depth⟩

end Machine

end Chip8
