import Chip8.Proofs.Machine.Actions
import Chip8.Proofs.Machine.Outcome
import Chip8.Proofs.Machine.Reads
import Mathlib.Data.List.Forall2

namespace Chip8

/-!
# Inputs act through the instructions that read them

Keys, timers and random numbers come from outside the program, and few words
read them.  Two machines that differ there, and are driven by hosts that differ
there, answer every step alike and stay equal everywhere else until one of them
executes such a word.  The same holds of the semantics, which no host changes
during a run.
-/

namespace Word

/-- The word waits for a key, `Fx0A`. -/
def IsKeyWait (word : UInt16) : Prop :=
  group word = 0xF ∧ byte word = 0x0A

/-- The word reads the delay timer, `Fx07`. -/
def IsDelayRead (word : UInt16) : Prop :=
  group word = 0xF ∧ byte word = 0x07

/-- The word draws a random number, `Cxkk`. -/
def IsRandomDraw (word : UInt16) : Prop :=
  group word = 0xC

/-- The word copies a register, `8xy0`. -/
def IsCopy (word : UInt16) : Prop :=
  group word = 0x8 ∧ low word = 0x0

/-- The word jumps by an offset or sets the index, `Bnnn`. -/
def IsOffsetJump (word : UInt16) : Prop :=
  group word = 0xB

/-- The word loads registers or stores them again, `Fx65`. -/
def IsRegisterLoad (word : UInt16) : Prop :=
  group word = 0xF ∧ byte word = 0x65

/-- The word has one meaning under both semantics. -/
def Unambiguous (word : UInt16) : Prop :=
  ¬IsCopy word ∧ ¬IsOffsetJump word ∧ ¬IsRegisterLoad word

/--
The word reads none of the hidden components.  The sound timer is read by no
word.
-/
structure Ignores
    (word : UInt16)
    (hidden : List Component) :
    Prop where
  keypad :
    .keypad ∈ hidden → ¬IsKeyTest word ∧ ¬IsKeyWait word
  delayTimer :
    .delayTimer ∈ hidden → ¬IsDelayRead word
  random :
    .random ∈ hidden → ¬IsRandomDraw word
  semantics :
    .semantics ∈ hidden → Unambiguous word

instance : DecidablePred IsKeyTest :=
  fun word =>
    inferInstanceAs (Decidable (group word = 0xE ∧ (byte word = 0x9E ∨ byte word = 0xA1)))

instance : DecidablePred IsKeyWait :=
  fun word => inferInstanceAs (Decidable (group word = 0xF ∧ byte word = 0x0A))

instance : DecidablePred IsDelayRead :=
  fun word => inferInstanceAs (Decidable (group word = 0xF ∧ byte word = 0x07))

instance : DecidablePred IsRandomDraw :=
  fun word => inferInstanceAs (Decidable (group word = 0xC))

instance : DecidablePred Unambiguous :=
  fun word =>
    inferInstanceAs
      (Decidable
        (¬(group word = 0x8 ∧ low word = 0x0) ∧ ¬group word = 0xB ∧
          ¬(group word = 0xF ∧ byte word = 0x65)))

/-- A word ignores hidden components exactly when it has none of the readings that they forbid. -/
theorem ignores_iff
    {word : UInt16}
    {hidden : List Component} :
    Ignores word hidden ↔
      (.keypad ∈ hidden → ¬IsKeyTest word ∧ ¬IsKeyWait word) ∧
        (.delayTimer ∈ hidden → ¬IsDelayRead word) ∧
        (.random ∈ hidden → ¬IsRandomDraw word) ∧
        (.semantics ∈ hidden → Unambiguous word) :=
  ⟨fun ⟨keypad, delayTimer, random, semantics⟩ => ⟨keypad, delayTimer, random, semantics⟩,
    fun ⟨keypad, delayTimer, random, semantics⟩ => ⟨keypad, delayTimer, random, semantics⟩⟩

instance
    (word : UInt16)
    (hidden : List Component) :
    Decidable (Ignores word hidden) :=
  decidable_of_iff _ ignores_iff.symm

end Word

/-- The components that come from outside the program. -/
def Component.inputs : List Component :=
  [.keypad, .delayTimer, .soundTimer, .random]

/-- The components that only a few words read. -/
def Component.hideable : List Component :=
  .semantics :: inputs

/-- An instruction reads a hidden component only if its word does not ignore it. -/
theorem Instruction.not_mem_hidden_of_reads
    {word : UInt16}
    {instruction : Instruction}
    {hidden : List Component}
    (encoded : instruction.Encodes word)
    (hideable : hidden ⊆ Component.hideable)
    (ignores : Word.Ignores word hidden)
    {component : Component}
    (read : component ∈ instruction.reads) :
    component ∉ hidden := by
  intro member
  have outside : component ∈ instruction.reads.filter (· ∈ Component.hideable) :=
    List.mem_filter.mpr ⟨read, decide_eq_true (hideable member)⟩
  cases instruction with
  | skipIfKeyDown x =>
      obtain rfl := List.mem_singleton.mp outside
      exact (ignores.keypad member).1 ⟨encoded.1, .inl encoded.2.1⟩
  | skipIfKeyUp x =>
      obtain rfl := List.mem_singleton.mp outside
      exact (ignores.keypad member).1 ⟨encoded.1, .inr encoded.2.1⟩
  | waitForKey x =>
      obtain rfl := List.mem_singleton.mp outside
      exact (ignores.keypad member).2 ⟨encoded.1, encoded.2.1⟩
  | readDelay x =>
      obtain rfl := List.mem_singleton.mp outside
      exact ignores.delayTimer member ⟨encoded.1, encoded.2.1⟩
  | random x byte =>
      obtain rfl := List.mem_singleton.mp outside
      exact ignores.random member encoded.1
  | copy x y =>
      obtain rfl := List.mem_singleton.mp outside
      exact (ignores.semantics member).1 ⟨encoded.1, encoded.2.1⟩
  | jumpOffset address =>
      obtain rfl := List.mem_singleton.mp outside
      exact (ignores.semantics member).2.1 encoded.1
  | loadRegisters x =>
      obtain rfl := List.mem_singleton.mp outside
      exact (ignores.semantics member).2.2 ⟨encoded.1, encoded.2.1⟩
  | _ => exact absurd outside List.not_mem_nil

namespace Machine

/-- None of the components that decide how a step ends can be hidden. -/
theorem not_mem_hidden_of_deciding
    {hidden : List Component}
    (hideable : hidden ⊆ Component.hideable)
    {component : Component}
    (decides : component ∈ deciding) :
    component ∉ hidden := by
  intro member
  have apart : ∀ component ∈ deciding, component ∉ Component.hideable := by
    decide
  exact apart component decides (hideable member)

variable {first second : Machine} {hidden : List Component}

/-- A step that executes no word which reads a hidden component keeps the difference hidden. -/
theorem AgreesOutside.step
    (agrees : first.AgreesOutside second hidden)
    (hideable : hidden ⊆ Component.hideable)
    (ignores : ∀ word ∈ first.executed? .step, Word.Ignores word hidden) :
    first.step.result = second.step.result ∧
      first.step.state.AgreesOutside second.step.state hidden := by
  have decided := agrees.agreesOn fun _ => not_mem_hidden_of_deciding hideable
  have result := step_result_eq_of_agreesOn decided
  refine ⟨result, ?_⟩
  have memory : first.memory = second.memory :=
    decided .memory (by simp [deciding])
  have pc : first.pc = second.pc :=
    decided .pc (by simp [deciding])
  have address : .pc ∉ hidden :=
    not_mem_hidden_of_deciding hideable (by simp [deciding])
  -- The first machine decides the case: what decides it there is the same in the second.
  rcases first.step_cases with
    ⟨stop, _, failed, state⟩ | ⟨word, fetch, _, undefined, _, state⟩ |
      ⟨word, instruction, fetch, _, decoded, runs, succeeded, state⟩
  · rw [failed] at result
    rw [state, (step_of_stop (step_result_eq_error_iff.mp result.symm)).2]
    exact agrees
  · rw [memory, pc] at fetch
    rw [state, (step_of_undefined fetch undefined).2]
    exact agrees.fetched address word
  · have executes : word ∈ first.executed? .step := by
      simp [executed?, succeeded, fetch, Except.toOption]
    rw [memory, pc] at fetch
    rw [stop?_eq decided] at runs
    rw [state, (step_of_runs fetch decoded runs).2]
    exact (agrees.fetched address word).execute fun _ =>
      Instruction.not_mem_hidden_of_reads (Instruction.encodes_of_decode? decoded) hideable
        (ignores word executes)

/-- The answers of two steps are the same but for hidden components. -/
structure Alike
    (hidden : List Component)
    (first second : Reply Machine (Except Stop Unit)) :
    Prop where
  result :
    first.result = second.result
  state :
    first.state.AgreesOutside second.state hidden

/-- The action writes hidden components only. -/
def Action.isHidden
    (hidden : List Component) :
    Action → Bool
  | .setKeys _ => .keypad ∈ hidden
  | .tick => .delayTimer ∈ hidden ∧ .soundTimer ∈ hidden
  | .reseed _ => .random ∈ hidden
  | .step
  | .load _
  | .reset => false

/-- An action on hidden components executes no word, answers nothing and stays hidden. -/
theorem perform?_of_isHidden
    (machine : Machine)
    {action : Action}
    (quiet : action.isHidden hidden) :
    machine.reply? action = none ∧ machine.executed? action = none ∧
      ∃ next, machine.perform? action = some next ∧ next.AgreesOutside machine hidden := by
  cases action with
  | step | load program | reset => cases quiet
  | setKeys keypad =>
      have keys : .keypad ∈ hidden := of_decide_eq_true quiet
      refine ⟨rfl, rfl, _, rfl, ?_⟩
      intro component seen
      cases component with
      | keypad => exact (seen keys).elim
      | _ => rfl
  | tick =>
      have timers : .delayTimer ∈ hidden ∧ .soundTimer ∈ hidden := of_decide_eq_true quiet
      refine ⟨rfl, rfl, _, rfl, ?_⟩
      intro component seen
      cases component with
      | delayTimer => exact (seen timers.1).elim
      | soundTimer => exact (seen timers.2).elim
      | _ => rfl
  | reseed random =>
      have drawn : .random ∈ hidden := of_decide_eq_true quiet
      refine ⟨rfl, rfl, _, rfl, ?_⟩
      intro component seen
      cases component with
      | random => exact (seen drawn).elim
      | _ => rfl

/-- Actions on hidden components can be left out of a run. -/
theorem skip_hidden
    (machine : Machine)
    {actions : List Action}
    (quiet : ∀ action ∈ actions, action.isHidden hidden) :
    ∃ next : Machine, next.AgreesOutside machine hidden ∧
      ∀ rest,
        machine.stepReplies (actions ++ rest) = next.stepReplies rest ∧
          machine.performAll? (actions ++ rest) = next.performAll? rest := by
  induction actions generalizing machine with
  | nil =>
      exact ⟨machine, .refl machine hidden, fun _ => ⟨rfl, rfl⟩⟩
  | cons action actions inductionHypothesis =>
      obtain ⟨silent, _, middle, performed, agrees⟩ :=
        machine.perform?_of_isHidden (quiet action List.mem_cons_self)
      obtain ⟨next, further, skips⟩ :=
        inductionHypothesis middle fun later member => quiet later (List.mem_cons_of_mem _ member)
      refine ⟨next, further.trans agrees, ?_⟩
      intro rest
      obtain ⟨replies, performs⟩ := skips rest
      refine ⟨?_, ?_⟩
      · simp only [List.cons_append, stepReplies, silent, performed, Option.toList_none,
          List.nil_append, replies]
      · simp only [List.cons_append, performAll?, performed, Option.bind_some, performs]

/-- Loading a program keeps machines alike outside what is hidden, if their memories are not. -/
theorem loadProgram_agreesOutside
    (agrees : first.AgreesOutside second hidden)
    (memory : .memory ∉ hidden)
    (program : List UInt8) :
    (first.loadProgram program).state.AgreesOutside (second.loadProgram program).state hidden := by
  have same : first.memory = second.memory := agrees .memory memory
  unfold loadProgram
  rw [same]
  split
  next =>
    intro component seen
    cases component with
    | memory => rfl
    | _ => exact agrees _ seen
  next => exact agrees

/-- A reset keeps machines alike outside what is hidden. -/
theorem reset_agreesOutside
    (agrees : first.AgreesOutside second hidden) :
    first.reset.AgreesOutside second.reset hidden := by
  intro component seen
  cases component with
  | semantics =>
      have same : first.semantics = second.semantics := agrees .semantics seen
      simpa only [content, reset] using same
  | random =>
      have same : first.random = second.random := agrees .random seen
      simpa only [content, reset] using same
  | _ => simp only [content, reset]

/-- One action on both machines: their steps answer alike and the difference stays hidden. -/
theorem AgreesOutside.perform
    (agrees : first.AgreesOutside second hidden)
    (hideable : hidden ⊆ Component.hideable)
    {action : Action}
    (ignores : ∀ word ∈ first.executed? action, Word.Ignores word hidden) :
    List.Forall₂ (Alike hidden) (first.reply? action).toList (second.reply? action).toList ∧
      Option.Rel (AgreesOutside · · hidden) (first.perform? action) (second.perform? action) := by
  cases action with
  | step =>
      obtain ⟨result, state⟩ := agrees.step hideable ignores
      refine ⟨.cons ⟨result, state⟩ .nil, ?_⟩
      simp only [perform?, result]
      split
      next => exact .none
      next => exact .some state
  | load program =>
      have memory : .memory ∉ hidden :=
        not_mem_hidden_of_deciding hideable (by simp [deciding])
      exact ⟨.nil, .some (loadProgram_agreesOutside agrees memory program)⟩
  | reset => exact ⟨.nil, .some (reset_agreesOutside agrees)⟩
  | setKeys keypad =>
      refine ⟨.nil, .some ?_⟩
      intro component seen
      cases component with
      | keypad => rfl
      | _ => exact agrees _ seen
  | tick =>
      refine ⟨.nil, .some ?_⟩
      intro component seen
      cases component with
      | delayTimer =>
          have timer : first.delayTimer = second.delayTimer := agrees .delayTimer seen
          show UInt8.ofNat (first.delayTimer.toNat - 1) = UInt8.ofNat (second.delayTimer.toNat - 1)
          rw [timer]
      | soundTimer =>
          have timer : first.soundTimer = second.soundTimer := agrees .soundTimer seen
          show UInt8.ofNat (first.soundTimer.toNat - 1) = UInt8.ofNat (second.soundTimer.toNat - 1)
          rw [timer]
      | _ => exact agrees _ seen
  | reseed random =>
      refine ⟨.nil, .some ?_⟩
      intro component seen
      cases component with
      | random => rfl
      | _ => exact agrees _ seen

/-- A word that the first action executes is among those of all actions. -/
theorem mem_executedWords_of_executed?
    {action : Action}
    {rest : List Action}
    {word : UInt16}
    (executed : word ∈ first.executed? action) :
    word ∈ first.executedWords (action :: rest) := by
  cases action with
  | step =>
      cases ends : first.step.result with
      | ok =>
          have performed : first.perform? .step = some first.step.state := by
            simp [perform?, ends]
          simp only [executedWords, performed]
          exact List.mem_append_left _ (Option.mem_toList.mpr executed)
      | error stop => simp [executed?, ends] at executed
  | _ => simp [executed?] at executed

/--
Two runs that differ in hidden components and in actions on them answer all
steps alike, and end alike, as long as the first executes no word that reads
what is hidden.
-/
theorem AgreesOutside.run
    (hideable : hidden ⊆ Component.hideable)
    {firstActions secondActions : List Action}
    (agrees : first.AgreesOutside second hidden)
    (same :
      firstActions.filter (!·.isHidden hidden) = secondActions.filter (!·.isHidden hidden))
    (ignores : ∀ word ∈ first.executedWords firstActions, Word.Ignores word hidden) :
    List.Forall₂ (Alike hidden)
        (first.stepReplies firstActions) (second.stepReplies secondActions) ∧
      Option.Rel (AgreesOutside · · hidden)
        (first.performAll? firstActions) (second.performAll? secondActions) := by
  induction firstActions generalizing first second secondActions with
  | nil =>
      have quiet : ∀ action ∈ secondActions, action.isHidden hidden := by
        simpa using List.filter_eq_nil_iff.mp same.symm
      obtain ⟨next, further, skips⟩ := second.skip_hidden quiet
      obtain ⟨replies, performs⟩ := skips []
      rw [List.append_nil] at replies performs
      rw [replies, performs]
      exact ⟨.nil, .some (agrees.trans further.symm)⟩
  | cons action rest inductionHypothesis =>
      cases visible : action.isHidden hidden with
      | true =>
          obtain ⟨silent, idle, next, performed, further⟩ :=
            first.perform?_of_isHidden visible
          simp only [visible, Bool.not_true, Bool.false_eq_true, not_false_eq_true,
            List.filter_cons_of_neg] at same
          simp only [executedWords, performed, idle, Option.toList_none, List.nil_append] at ignores
          simp only [stepReplies, performAll?, performed, silent, Option.toList_none,
            List.nil_append, Option.bind_some]
          exact inductionHypothesis (further.trans agrees) same ignores
      | false =>
          simp only [visible, Bool.not_false, List.filter_cons_of_pos] at same
          -- The second run comes to the same action behind some that are hidden.
          obtain ⟨before, after, rfl, quiet, _, remaining⟩ := List.filter_eq_cons_iff.mp same.symm
          have skipped : ∀ action ∈ before, action.isHidden hidden := by
            simpa using quiet
          obtain ⟨next, further, skips⟩ := second.skip_hidden skipped
          obtain ⟨replies, performs⟩ := skips (action :: after)
          rw [replies, performs]
          have here : ∀ word ∈ first.executed? action, Word.Ignores word hidden :=
            fun word executed => ignores word (mem_executedWords_of_executed? executed)
          obtain ⟨answers, leads⟩ := (agrees.trans further.symm).perform hideable here
          generalize reached : first.perform? action = firstNext at leads
          generalize found : next.perform? action = secondNext at leads
          simp only [stepReplies, performAll?, reached, found]
          cases leads with
          | none =>
              exact ⟨List.rel_append answers .nil, .none⟩
          | some together =>
              simp only [executedWords, reached] at ignores
              obtain ⟨later, ends⟩ :=
                inductionHypothesis together remaining.symm
                  fun word member => ignores word (List.mem_append_right _ member)
              exact ⟨List.rel_append answers later, ends⟩

/--
Inputs act only through the instructions that read them.  Two machines that
differ in inputs, driven by hosts that change those inputs as they like and
otherwise do the same, answer every step alike and agree after it on everything
else, unless the first executes a word that reads such an input.  No word reads
the sound timer, so a difference there stays there without any condition.
-/
theorem inputs_act_through_reads :
    (∀ (hidden : List Component) (first second : Machine)
      (firstActions secondActions : List Action),
      hidden ⊆ Component.inputs →
      first.AgreesOutside second hidden →
      firstActions.filter (!·.isHidden hidden) = secondActions.filter (!·.isHidden hidden) →
      (∀ word ∈ first.executedWords firstActions, Word.Ignores word hidden) →
      List.Forall₂ (Alike hidden)
        (first.stepReplies firstActions) (second.stepReplies secondActions)) ∧
    (∀ (first second : Machine) (actions : List Action),
      first.AgreesOutside second [.soundTimer] →
      List.Forall₂ (Alike [.soundTimer])
        (first.stepReplies actions) (second.stepReplies actions)) := by
  constructor
  · intro hidden first second firstActions secondActions inputs agrees same ignores
    have hideable : hidden ⊆ Component.hideable :=
      fun _ member => List.mem_cons_of_mem _ (inputs member)
    exact (agrees.run hideable same ignores).1
  · intro first second actions agrees
    have hideable : [.soundTimer] ⊆ Component.hideable := by
      decide
    refine (agrees.run hideable rfl fun word _ => ?_).1
    constructor <;> intro hidden <;> simp at hidden

/-- A machine that is about to sound the buzzer, draw a sprite and start the delay timer. -/
def sounding : Machine :=
  loaded .corrected [0x60, 0x05, 0xF0, 0x18, 0xA2, 0x00, 0xD0, 0x02, 0xF0, 0x15]

/-- The same machine with a key down, running timers and other random numbers to come. -/
def soundingElsewhere : Machine :=
  { sounding with
    keypad := Keypad.holding [3]
    delayTimer := 9
    soundTimer := 1
    random := RandomStream.ofSeed 7 }

/-- Other inputs, changed at other moments, make no difference to a program that reads none. -/
theorem sounding_alike :
    let quiet : List Action := [.step, .tick, .step, .step, .step, .step]
    let busy : List Action :=
      [.setKeys (Keypad.holding [1]), .step, .step, .tick, .tick, .step,
        .reseed (RandomStream.ofSeed 8), .step, .setKeys Keypad.released, .step]
    sounding.AgreesOutside soundingElsewhere Component.inputs ∧
      (∀ word ∈ sounding.executedWords quiet, Word.Ignores word Component.inputs) ∧
      List.Forall₂ (Alike Component.inputs)
        (sounding.stepReplies quiet) (soundingElsewhere.stepReplies busy) ∧
      List.Forall₂ (Alike [.soundTimer])
        (sounding.stepReplies quiet) (({ sounding with soundTimer := 1 } : Machine).stepReplies quiet) := by
  intro quiet busy
  have agrees : sounding.AgreesOutside soundingElsewhere Component.inputs := by
    intro component seen
    cases component with
    | keypad | delayTimer | soundTimer | random => exact (seen (by decide)).elim
    | _ => rfl
  have silent : sounding.AgreesOutside { sounding with soundTimer := 1 } [.soundTimer] := by
    intro component seen
    cases component with
    | soundTimer => exact (seen (by decide)).elim
    | _ => rfl
  have checked :
      (sounding.executedWords quiet).all (fun word => Word.Ignores word Component.inputs) = true := by
    decide +kernel
  have ignores : ∀ word ∈ sounding.executedWords quiet, Word.Ignores word Component.inputs :=
    fun word member => of_decide_eq_true (List.all_eq_true.mp checked word member)
  obtain ⟨inputs, soundTimer⟩ := inputs_act_through_reads
  exact ⟨agrees, ignores,
    inputs Component.inputs sounding soundingElsewhere quiet busy (List.Subset.refl _) agrees rfl
      ignores,
    soundTimer sounding _ quiet silent⟩

end Machine

end Chip8
