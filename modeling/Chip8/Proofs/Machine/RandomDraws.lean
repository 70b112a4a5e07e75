import Chip8.Proofs.Machine.Footprint

namespace Chip8

/-!
# Random draws

A word that draws a random number takes the next word of the stream, and
nothing else touches the stream until it is started anew.  So the draws of a
run, counted from the start of the stream, tell which of its words each of them
got and where the stream stands.
-/

/-- A random draw that succeeded: its word, and the value that it left in the register. -/
structure RandomDraw where
  word : UInt16
  stored : UInt8
  deriving Repr, DecidableEq

namespace RandomStream

/--
The draws get the words of a stream one after another, each its low byte under
the mask of the draw, and leave the stream behind the last of them.
-/
structure Deals
    (before : RandomStream)
    (draws : List RandomDraw)
    (after : RandomStream) :
    Prop where
  stored :
    ∀ position draw,
      draws[position]? = some draw →
      draw.stored =
        (word before.key (before.drawn + position)).toUInt8 &&& Word.byte draw.word
  left :
    after = { before with drawn := before.drawn + draws.length }

namespace Deals

/-- Where nothing is drawn the stream stays where it is. -/
theorem nil
    (stream : RandomStream) :
    stream.Deals [] stream :=
  ⟨nofun, rfl⟩

/-- One draw gets the next word and leaves the stream behind it. -/
theorem next
    {stream : RandomStream}
    {draw : RandomDraw}
    (stored : draw.stored = stream.next.1 &&& Word.byte draw.word) :
    stream.Deals [draw] stream.next.2 := by
  refine ⟨?_, rfl⟩
  intro position found here
  cases position with
  | zero =>
      cases here
      exact stored
  | succ position =>
      cases here

/-- Draws in two parts get their words in order. -/
theorem append
    {before middle after : RandomStream}
    {draws more : List RandomDraw}
    (first : before.Deals draws middle)
    (second : middle.Deals more after) :
    before.Deals (draws ++ more) after := by
  obtain ⟨stored, rfl⟩ := first
  obtain ⟨storedLater, rfl⟩ := second
  constructor
  · intro position draw found
    by_cases within : position < draws.length
    · rw [List.getElem?_append_left within] at found
      exact stored position draw found
    · have past : draws.length ≤ position :=
        Nat.not_lt.mp within
      rw [List.getElem?_append_right past] at found
      have dealt := storedLater (position - draws.length) draw found
      rwa [Nat.add_assoc, Nat.add_sub_cancel' past] at dealt
  · simp only [List.length_append, Nat.add_assoc]

end Deals

end RandomStream

namespace Machine

/-- The draw that an action makes, if it is a step that executes one. -/
def randomDraw?
    (machine : Machine)
    (action : Action) :
    Option RandomDraw :=
  match machine.executed? action with
  | none => none
  | some word =>
      if Word.IsRandomDraw word then
        some { word, stored := machine.step.state.register (Word.x word) }
      else
        none

/-- The draws that some actions make, in order, up to an action that crashes. -/
def randomDraws
    (machine : Machine) :
    List Action → List RandomDraw
  | [] => []
  | action :: rest =>
      (machine.randomDraw? action).toList ++
        match machine.perform? action with
        | some next => next.randomDraws rest
        | none => []

/-- The stream of the machine was just started from a seed. -/
inductive JustSeeded (seed : UInt64) : Machine → Prop where
  | powerOn (semantics : Semantics) :
      JustSeeded seed (powerOn semantics (RandomStream.ofSeed seed))
  | reseed (machine : Machine) :
      JustSeeded seed (machine.reseed seed)

variable {machine next final : Machine}

/-- A machine that has just been seeded holds the stream of its seed. -/
theorem JustSeeded.random
    {seed : UInt64}
    (seeded : machine.JustSeeded seed) :
    machine.random = RandomStream.ofSeed seed := by
  cases seeded with
  | powerOn semantics => rw [Machine.powerOn]
  | reseed machine => rfl

/-- A step deals a word of the stream if it executes a random draw, and else leaves the stream. -/
theorem step_deals
    (machine : Machine) :
    machine.random.Deals (machine.randomDraw? .step).toList machine.step.state.random := by
  cases ends : machine.step.result with
  | error stop =>
      have silent : machine.randomDraw? .step = none := by
        simp [randomDraw?, executed?, ends]
      rw [silent, (step_of_stop (step_result_eq_error_iff.mp ends)).2]
      exact .nil machine.random
  | ok =>
      obtain ⟨word, fetch, -⟩ := step_leads ends
      have executes : machine.executed? .step = some word := by
        simp [executed?, ends, fetch, Except.toOption]
      -- Only a word that draws can write the stream, and what it stores is the next word of it.
      by_cases draws : Word.IsRandomDraw word
      · have decoded :
            Instruction.decode? word = some (.random (Word.x word) (Word.byte word)) :=
          Instruction.decode?_of_encodes ⟨draws, rfl, rfl⟩
        have drawn :
            machine.step.state =
              setRegister { machine.fetched word with random := machine.random.next.2 }
                (Word.x word) (machine.random.next.1 &&& Word.byte word) :=
          step_state_of_succeeded fetch decoded ends
        have stored :
            machine.step.state.register (Word.x word) =
              machine.random.next.1 &&& Word.byte word := by
          rw [drawn, register_setRegister, if_pos rfl]
        have left : machine.step.state.random = machine.random.next.2 := by
          rw [drawn, setRegister]
        have found :
            machine.randomDraw? .step =
              some { word, stored := machine.step.state.register (Word.x word) } := by
          simp [randomDraw?, executes, draws]
        rw [found, left]
        exact .next stored
      · have silent : machine.randomDraw? .step = none := by
          simp [randomDraw?, executes, draws]
        have kept : machine.step.state.random = machine.random :=
          step_content fetch ends (show Component.random ≠ .lastWord by decide) draws
        rw [silent, kept]
        exact .nil machine.random

/-- Loading a program draws no number. -/
theorem loadProgram_random
    (machine : Machine)
    (program : List UInt8) :
    (machine.loadProgram program).state.random = machine.random := by
  unfold loadProgram
  split <;> rfl

/-- An action that does not start the stream anew deals what it draws. -/
theorem perform?_deals
    {action : Action}
    (performed : machine.perform? action = some next)
    (kept : ∀ random, action ≠ .reseed random) :
    machine.random.Deals (machine.randomDraw? action).toList next.random := by
  cases action with
  | step =>
      obtain ⟨-, rfl⟩ := perform?_step_eq_some_iff.mp performed
      exact machine.step_deals
  | load program =>
      obtain rfl := Option.some.inj performed
      rw [machine.loadProgram_random program]
      exact .nil machine.random
  | setKeys keypad | tick =>
      obtain rfl := Option.some.inj performed
      exact .nil machine.random
  | reset =>
      obtain rfl : machine.reset = next := Option.some.inj performed
      simp only [reset]
      exact .nil machine.random
  | reseed random =>
      exact (kept random rfl).elim

/-- Actions that do not start the stream anew deal what they draw. -/
theorem performAll?_deals
    {actions : List Action}
    (performed : machine.performAll? actions = some final)
    (kept : ∀ random, .reseed random ∉ actions) :
    machine.random.Deals (machine.randomDraws actions) final.random := by
  induction actions generalizing machine with
  | nil =>
      cases performed
      exact .nil _
  | cons action rest inductionHypothesis =>
      obtain ⟨next, first, remaining⟩ := Option.bind_eq_some_iff.mp performed
      have dealt :=
        perform?_deals first fun random same => kept random (same ▸ List.mem_cons_self)
      rw [randomDraws, first]
      exact dealt.append
        (inductionHypothesis remaining fun random later => kept random (List.mem_cons_of_mem _ later))

end Machine

end Chip8
