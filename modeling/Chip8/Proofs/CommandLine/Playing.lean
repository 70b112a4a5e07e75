import Chip8.CommandLine.Session
import Chip8.Proofs.Emulator.Drive

namespace Chip8.CommandLine

/-!
# What a session shows

A session shows what driving its emulator gives: live, a block for every frame
as it is completed; otherwise the screen at the end, if no frame was left out.
How it ends depends on the driving only.
-/

/-- What a live session shows of a completed frame. -/
def liveBlock (screen : Screen) : String :=
  Terminal.homeSequence ++ Terminal.render screen

/-- How a session ends when driving gave this behind a number of frames. -/
def endingOf
    (before : Nat)
    (driven : Driven) :
    Ending :=
  match driven.halt with
  | none => .finished
  | some .crash => .crashed
  | some (.error cause) => .failed (.stopped (before + driven.screens.length + 1) cause)

/-- Driving that completes all its frames ends a session well. -/
theorem endingOf_of_completed
    {driven : Driven}
    (completed : driven.halt = none)
    (before : Nat) :
    endingOf before driven = .finished := by
  simp only [endingOf, completed]

/-- Driving that an error has stopped ends a session with the frame it was to complete next. -/
theorem endingOf_of_stopped
    {driven : Driven}
    {cause : EmulationError}
    (stopped : driven.halt = some (.error cause))
    (before : Nat) :
    endingOf before driven = .failed (.stopped (before + driven.screens.length + 1) cause) := by
  simp only [endingOf, stopped]

namespace Session

/-- What is still to be driven in a session. -/
def driven (session : Session) : Driven :=
  session.emulator.drive session.host.keypad session.host.framesLeft.toNat

/-- What a session shows of what was driven. -/
def shown
    (session : Session)
    (driven : Driven) :
    String :=
  if session.host.live then
    String.join (driven.screens.map liveBlock)
  else if session.quiet || driven.halt.isSome then
    ""
  else
    Terminal.render driven.last.machine.screen

/-- The session behind a completed frame, with the logger as it is then. -/
def afterFrame
    (session : Session)
    (logger : Logger) :
    Session where
  emulator :=
    (session.emulator.withKeys session.host.keypad).emulateFrame.state
  host :=
    { session.host with framesLeft := session.host.framesLeft - 1 }
  logger :=
    logger
  quiet :=
    session.quiet

variable {session next : Session} {output lines : Array String}

/-- A turn that ends the session is the last one played. -/
theorem playAfter_of_ending
    {ending : Ending}
    (ends : session.advance.next = .error ending) :
    session.playAfter output lines =
      { output := output.push session.advance.output
        lines := lines ++ session.advance.lines
        ending } := by
  rw [playAfter]
  split
  next same =>
    rw [ends] at same
    cases same
    rfl
  next same =>
    rw [ends] at same
    cases same

/-- A turn behind which the session goes on is played before the rest. -/
theorem playAfter_of_next
    (continues : session.advance.next = .ok next) :
    session.playAfter output lines =
      next.playAfter (output.push session.advance.output) (lines ++ session.advance.lines) := by
  rw [playAfter]
  split
  next same =>
    rw [continues] at same
    cases same
  next same =>
    rw [continues] at same
    cases same
    rfl

/-- A session whose frames are used up shows the last picture and is finished. -/
theorem advance_of_spent
    (spent : session.host.framesLeft = 0) :
    session.advance.output = session.lastPicture ∧
      session.advance.next = .error .finished := by
  simp [advance, Emulator.runFrame, Host.poll, spent]

/-- A frame that is not completed shows nothing and ends the session. -/
theorem advance_of_halt
    {halt : Halt}
    (left : session.host.framesLeft ≠ 0)
    (halts :
      (session.emulator.withKeys session.host.keypad).emulateFrame.result = .error halt) :
    session.advance.output = "" ∧
      session.advance.next =
        .error (endingOf session.emulator.frames ⟨[], session.emulator, some halt⟩) := by
  unfold Emulator.withKeys at halts
  cases halt <;> simp [advance, Emulator.runFrame, Host.poll, left, halts, endingOf]

/-- A completed frame is shown in a live session, and the session goes on behind it. -/
theorem advance_of_frame
    (left : session.host.framesLeft ≠ 0)
    (idle : session.host.pending = "")
    (completes :
      (session.emulator.withKeys session.host.keypad).emulateFrame.result = .ok ()) :
    session.advance.output =
        (if session.host.live then
          liveBlock (session.emulator.withKeys session.host.keypad).emulateFrame.state.machine.screen
        else
          "") ∧
      ∃ logger, session.advance.next = .ok (session.afterFrame logger) := by
  unfold afterFrame
  unfold Emulator.withKeys at completes ⊢
  cases live : session.host.live <;>
    simp [advance, Emulator.runFrame, Host.poll, Host.present, TerminalHost.flushed, left, live,
      idle, completes, liveBlock]

/-- What is driven of a session is a completed frame and then what is driven behind it. -/
theorem driven_of_frame
    (left : session.host.framesLeft ≠ 0)
    (completes :
      (session.emulator.withKeys session.host.keypad).emulateFrame.result = .ok ())
    (logger : Logger) :
    (session.afterFrame logger).host.framesLeft.toNat + 1 = session.host.framesLeft.toNat ∧
      session.driven =
        (session.afterFrame logger).driven.behind
          (session.afterFrame logger).emulator.machine.screen := by
  have fewer := TerminalHost.framesLeft_toNat left
  refine ⟨fewer, ?_⟩
  rw [driven, ← fewer, Emulator.drive_of_frame completes]
  rfl

/-- A frame that was completed before counts among those before, for the ending. -/
theorem endingOf_behind
    (before : Nat)
    (driven : Driven)
    (screen : Screen) :
    endingOf before (driven.behind screen) = endingOf (before + 1) driven := by
  have count : before + (driven.screens.length + 1) + 1 = before + 1 + driven.screens.length + 1 := by
    omega
  rcases halted : driven.halt with _ | _ | _ <;>
    simp [endingOf, Driven.behind, halted, count]

/-- The block of a frame that was completed before is shown before the rest. -/
theorem shown_behind
    (session : Session)
    (driven : Driven)
    (screen : Screen) :
    session.shown (driven.behind screen) =
      (if session.host.live then liveBlock screen else "") ++ session.shown driven := by
  cases live : session.host.live <;>
    simp [shown, Driven.behind, live, String.join_cons]

/-- A piece of output that is added at the end stands at the end of the whole text. -/
theorem join_push
    (output : Array String)
    (text : String) :
    String.join (output.push text).toList = String.join output.toList ++ text := by
  simp [String.join_append]

/-- Playing a session shows what driving its emulator gives, and ends accordingly. -/
structure ShowsDriven
    (session : Session)
    (output lines : Array String) : Prop where
  shows :
    String.join (session.playAfter output lines).output.toList =
      String.join output.toList ++ session.shown session.driven
  ends :
    (session.playAfter output lines).ending = endingOf session.emulator.frames session.driven

/-- A session whose frames are used up shows what driving it no further gives. -/
theorem showsDriven_of_spent
    (spent : session.host.framesLeft = 0) :
    session.ShowsDriven output lines := by
  obtain ⟨picture, ends⟩ := advance_of_spent spent
  have nothing : session.driven = ⟨[], session.emulator, none⟩ := by
    rw [driven, spent]
    rfl
  constructor
  case shows =>
    rw [playAfter_of_ending ends, join_push, picture, nothing]
    cases live : session.host.live <;> cases quiet : session.quiet <;>
      simp [lastPicture, shown, live, quiet]
  case ends =>
    rw [playAfter_of_ending ends, nothing]
    rfl

/-- A session whose next frame is not completed shows what driving up to there gives. -/
theorem showsDriven_of_halt
    {halt : Halt}
    (left : session.host.framesLeft ≠ 0)
    (halts :
      (session.emulator.withKeys session.host.keypad).emulateFrame.result = .error halt) :
    session.ShowsDriven output lines := by
  obtain ⟨nothing, ends⟩ := advance_of_halt left halts
  obtain ⟨frames, more⟩ : ∃ frames, session.host.framesLeft.toNat = frames + 1 :=
    Nat.exists_eq_succ_of_ne_zero fun zero => left (UInt32.toNat_inj.mp zero)
  constructor
  case shows =>
    rw [playAfter_of_ending ends, join_push, nothing, driven, more, Emulator.drive_of_halt halts]
    simp [shown]
  case ends =>
    rw [playAfter_of_ending ends, driven, more, Emulator.drive_of_halt halts]
    rfl

/-- A session shows what is driven of it when the session behind its next frame does. -/
theorem showsDriven_of_frame
    (mounted : session.emulator.program.isSome)
    (left : session.host.framesLeft ≠ 0)
    (idle : session.host.pending = "")
    (completes :
      (session.emulator.withKeys session.host.keypad).emulateFrame.result = .ok ())
    (behind :
      ∀ logger,
        (session.afterFrame logger).ShowsDriven (output.push session.advance.output)
          (lines ++ session.advance.lines)) :
    session.ShowsDriven output lines := by
  obtain ⟨block, logger, continues⟩ := advance_of_frame left idle completes
  obtain ⟨-, whole⟩ := driven_of_frame left completes logger
  have counted : (session.afterFrame logger).emulator.frames = session.emulator.frames + 1 :=
    Emulator.frames_emulateFrame mounted completes
  constructor
  case shows =>
    rw [playAfter_of_next continues, (behind logger).shows, whole, join_push, block, shown_behind,
      String.append_assoc]
    rfl
  case ends =>
    rw [playAfter_of_next continues, (behind logger).ends, whole, endingOf_behind, counted]

/-- Every session on a mounted program shows what is driven of it. -/
theorem playAfter_shows
    (mounted : session.emulator.program.isSome)
    (idle : session.host.pending = "")
    (output lines : Array String) :
    session.ShowsDriven output lines := by
  -- A frame that is completed takes one of those that the host has left.
  induction count : session.host.framesLeft.toNat generalizing session output lines with
  | zero =>
      exact showsDriven_of_spent (UInt32.toNat_inj.mp count)
  | succ frames inductionHypothesis =>
      have left : session.host.framesLeft ≠ 0 := by
        intro none
        rw [none] at count
        cases count
      cases ends : (session.emulator.withKeys session.host.keypad).emulateFrame.result with
      | error =>
          exact showsDriven_of_halt left ends
      | ok =>
          refine showsDriven_of_frame mounted left idle ends fun logger => ?_
          obtain ⟨fewer, -⟩ := driven_of_frame left ends logger
          have still : (session.afterFrame logger).emulator.program.isSome := by
            rw [afterFrame, Emulator.emulateFrame_program]
            exact mounted
          exact inductionHypothesis still idle _ _ (by omega)

end Session

end Chip8.CommandLine
