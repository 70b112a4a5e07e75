import Chip8.Proofs.Emulator.Uses
import Chip8.Terminal

namespace Chip8

/-!
# Hosts that give the same keys

An emulator learns nothing of a host but the keys that it is given.  Hosts that
answer every poll alike, whatever they are shown between the polls, therefore
take equal emulators through equal states.  The host of a command-line run
counts its frames down where a scripted host uses its script up; held to the
same keys for as many frames, the two answer alike.
-/

namespace Host

variable {First Second : Type} [Host First] [Host Second]

/-- What a number of polls answer, one after another. -/
def polls
    {H : Type}
    [Host H] :
    Nat → H → List (Option Keypad)
  | 0, _ => []
  | count + 1, host => (poll host).1 :: polls count (poll host).2

/-- A relation of hosts that gives the same keys under it and outlasts polls and pictures. -/
structure KeepsKeys (Alike : First → Second → Prop) : Prop where
  keys {first : First} {second : Second} :
    Alike first second → (poll first).1 = (poll second).1
  polled {first : First} {second : Second} :
    Alike first second → Alike (poll first).2 (poll second).2
  presented {first : First} {second : Second} :
    Alike first second → ∀ screen, Alike (present first screen) (present second screen)

variable {Alike : First → Second → Prop} {first : First} {second : Second}

/-- Hosts that give the same keys answer any number of polls alike. -/
theorem polls_eq
    (keeps : KeepsKeys Alike)
    (alike : Alike first second)
    (count : Nat) :
    polls count first = polls count second := by
  induction count generalizing first second with
  | zero =>
      rfl
  | succ count inductionHypothesis =>
      rw [polls, polls, keeps.keys alike, inductionHypothesis (keeps.polled alike)]

end Host

namespace Emulator

variable
  {First Second : Type} [Host First] [Host Second]
  {Alike : First → Second → Prop} {first : First} {second : Second}

/-- Two replies of the frame driver that differ in their hosts at most, and these stay alike. -/
structure RepliesAlike
    (Alike : First → Second → Prop)
    (first : Reply (Emulator × First) (Except Halt Bool))
    (second : Reply (Emulator × Second) (Except Halt Bool)) : Prop where
  result :
    first.result = second.result
  emulator :
    first.state.1 = second.state.1
  events :
    first.events = second.events
  hosts :
    Alike first.state.2 second.state.2

/-- A frame run with hosts that give the same keys is the same frame. -/
theorem runFrame_alike
    (emulator : Emulator)
    (keeps : Host.KeepsKeys Alike)
    (alike : Alike first second) :
    RepliesAlike Alike (emulator.runFrame first) (emulator.runFrame second) := by
  have keys := keeps.keys alike
  have later := keeps.polled alike
  rcases firstPolls : Host.poll first with ⟨_ | keypad, firstRest⟩
  · rcases secondPolls : Host.poll second with ⟨_ | keypad, secondRest⟩
    · simp only [firstPolls, secondPolls] at later
      simp only [runFrame, firstPolls, secondPolls]
      exact ⟨rfl, rfl, rfl, later⟩
    · simp [firstPolls, secondPolls] at keys
  · rcases secondPolls : Host.poll second with ⟨_ | keypad, secondRest⟩
    · simp [firstPolls, secondPolls] at keys
    · simp only [firstPolls, secondPolls, Option.some.injEq] at keys later
      subst keys
      simp only [runFrame, firstPolls, secondPolls]
      cases (emulateFrame { emulator with machine := { emulator.machine with keypad } }).result with
      | error halt =>
          exact ⟨rfl, rfl, rfl, later⟩
      | ok =>
          exact ⟨rfl, rfl, rfl, keeps.presented later _⟩

/-- A call of the driver crashes with both hosts or gives the same answer with both. -/
theorem call?_alike
    {emulator : Emulator}
    (alike : RepliesAlike Alike (emulator.runFrame first) (emulator.runFrame second)) :
    (call? (emulator, first) = none ∧ call? (emulator, second) = none) ∨
      ∃ answer,
        call? (emulator, first) = some (answer, (emulator.runFrame first).state) ∧
          call? (emulator, second) = some (answer, (emulator.runFrame second).state) := by
  unfold call?
  dsimp only
  rw [alike.result]
  rcases (emulator.runFrame second).result with (cause | _) | more
  · exact .inr ⟨.error cause, rfl, rfl⟩
  · exact .inl ⟨rfl, rfl⟩
  · exact .inr ⟨.ok more, rfl, rfl⟩

/-- What is seen of a number of frames run with a host: the answers and the emulator at the end. -/
def framesSeen?
    {H : Type}
    [Host H]
    (emulator : Emulator)
    (host : H)
    (calls : Nat) :
    Option (List (Except EmulationError Bool) × Emulator) :=
  (answers? call? calls (emulator, host)).map (Prod.map id Prod.fst)

/-- What further calls show is seen behind what the first one shows. -/
theorem framesSeen?_succ
    {H : Type}
    [Host H]
    (emulator : Emulator)
    (host : H)
    (calls : Nat) :
    emulator.framesSeen? host (calls + 1) =
      (call? (emulator, host)).bind fun (answer, next) =>
        (next.1.framesSeen? next.2 calls).map (Prod.map (answer :: ·) id) := by
  rw [framesSeen?, answers?]
  rcases call? (emulator, host) with _ | ⟨answer, next⟩
  · rfl
  · simp only [Option.bind_some, framesSeen?, Option.map_map]
    rfl

/-- Any number of frames run with hosts that give the same keys are the same frames. -/
theorem framesSeen?_eq
    (emulator : Emulator)
    (keeps : Host.KeepsKeys Alike)
    (alike : Alike first second)
    (calls : Nat) :
    emulator.framesSeen? first calls = emulator.framesSeen? second calls := by
  induction calls generalizing emulator first second with
  | zero =>
      rfl
  | succ calls inductionHypothesis =>
      have replies := emulator.runFrame_alike keeps alike
      rw [framesSeen?_succ, framesSeen?_succ]
      rcases call?_alike replies with ⟨firstCrashes, secondCrashes⟩ | ⟨answer, firstCall, secondCall⟩
      · rw [firstCrashes, secondCrashes]
        rfl
      · rw [firstCall, secondCall]
        simp only [Option.bind_some]
        rw [inductionHypothesis _ replies.hosts, replies.emulator]

end Emulator

namespace Keypad

/-- Exactly the keys of a list are held, and numbers that are no keys are not. -/
theorem holding_down_iff
    (keys : List UInt8)
    (key : Fin 16) :
    (holding keys).down[key.val] = true ↔ ∃ held ∈ keys, held.toNat = key.val := by
  have pressed
      (keypad : Keypad) :
      (keys.foldl (fun keypad key => keypad.set key true) keypad).down[key.val] = true ↔
        keypad.down[key.val] = true ∨ ∃ held ∈ keys, held.toNat = key.val := by
    induction keys generalizing keypad with
    | nil =>
        simp
    | cons first rest inductionHypothesis =>
        have flipped :
            (keypad.set first true).down[key.val] = true ↔
              keypad.down[key.val] = true ∨ first.toNat = key.val := by
          by_cases same : first.toNat = key.val <;> simp [set, same]
        rw [List.foldl_cons, inductionHypothesis, flipped]
        simp only [List.mem_cons, exists_eq_or_imp, or_assoc]
  refine (pressed released).trans ?_
  simp [released]

end Keypad

namespace ScriptedHost

/-- The polls of a scripted host answer with its script, entry by entry. -/
theorem polls_eq_script
    (host : ScriptedHost)
    (count : Nat) :
    Host.polls count host = (List.range count).map fun poll => host.script[poll]? := by
  induction count generalizing host with
  | zero =>
      rfl
  | succ count inductionHypothesis =>
      rw [Host.polls, inductionHypothesis, List.range_succ_eq_map, List.map_cons, List.map_map]
      rcases host with ⟨_ | ⟨keypad, rest⟩, taken⟩
      · rfl
      · rfl

end ScriptedHost

namespace TerminalHost

/-- A scripted host is about to give what the host of a command-line run is about to give. -/
def Follows
    (host : TerminalHost)
    (scripted : ScriptedHost) :
    Prop :=
  scripted.script = List.replicate host.framesLeft.toNat host.keypad

/-- Counting down and using a script up give the same keys, for as long as both last. -/
theorem follows_keepsKeys : Host.KeepsKeys Follows where
  keys {host scripted} follows := by
    rcases scripted with ⟨script, taken⟩
    obtain rfl : script = _ := follows
    by_cases spent : host.framesLeft = 0
    · simp [Host.poll, spent]
    · simp only [Host.poll, spent, if_false, ← framesLeft_toNat spent, List.replicate_succ]
  polled {host scripted} follows := by
    rcases scripted with ⟨script, taken⟩
    obtain rfl : script = _ := follows
    by_cases spent : host.framesLeft = 0
    · simp [Host.poll, spent, Follows]
    · simp only [Host.poll, spent, if_false, ← framesLeft_toNat spent, List.replicate_succ, Follows]
  presented {host scripted} follows screen := by
    rcases host with ⟨keypad, framesLeft, _ | _, pending⟩
    · exact follows
    · exact follows

/-- The host of a command-line run follows the script of the same keys for as many frames. -/
theorem holding_follows
    (keys : List UInt8)
    (frames : UInt32)
    (live : Bool) :
    (holding keys frames live).Follows (ScriptedHost.holding keys frames.toNat) :=
  rfl

/--
The host of a command-line run and a scripted host that hold the same keys for
as many frames answer every poll alike, with exactly these keys and then with
nothing, and run the same frames of any emulator.
-/
theorem terminalHost_is_scripted
    (keys : List UInt8)
    (frames : UInt32)
    (live : Bool) :
    (∀ key : Fin 16,
      (Keypad.holding keys).down[key.val] = true ↔ ∃ held ∈ keys, held.toNat = key.val) ∧
    (∀ count,
      let answers :=
        (List.range count).map fun poll =>
          if poll < frames.toNat then some (Keypad.holding keys) else none
      Host.polls count (holding keys frames live) = answers ∧
        Host.polls count (ScriptedHost.holding keys frames.toNat) = answers) ∧
    (∀ (emulator : Emulator) (calls : Nat),
      emulator.framesSeen? (holding keys frames live) calls =
        emulator.framesSeen? (ScriptedHost.holding keys frames.toNat) calls) := by
  have follows := holding_follows keys frames live
  refine ⟨Keypad.holding_down_iff keys, ?_, ?_⟩
  · intro count answers
    have scripted : Host.polls count (ScriptedHost.holding keys frames.toNat) = answers := by
      rw [ScriptedHost.polls_eq_script]
      simp only [ScriptedHost.holding, ScriptedHost.ofScript, List.getElem?_replicate, answers]
    exact ⟨(Host.polls_eq follows_keepsKeys follows count).trans scripted, scripted⟩
  · intro emulator calls
    exact emulator.framesSeen?_eq follows_keepsKeys follows calls

end TerminalHost

end Chip8
