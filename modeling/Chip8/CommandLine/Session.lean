import Chip8.CommandLine.Settings
import Chip8.Terminal

namespace Chip8.CommandLine

/-!
# Sessions

A session plays a mounted program frame by frame.  Each turn shows some output
and some log lines and either leaves the session for the next turn or ends it.
A session ends because every turn that goes on uses up a frame of its host.
-/

/-- How a session ends. -/
inductive Ending where
  | finished
  | failed (failure : Failure)
  | crashed
  deriving Repr, DecidableEq

namespace Ending

/-- The number with which the program exits. -/
def exitCode : Ending → Nat
  | .finished => 0
  | .failed _ => 1
  | .crashed => 101

/-- The report at the end. -/
def report : Ending → String
  | .finished | .crashed => ""
  | .failed failure => failure.report

end Ending

/-- A program that is being played. -/
structure Session where
  emulator : Emulator
  host : TerminalHost
  logger : Logger
  quiet : Bool
  deriving DecidableEq

/-- What a turn shows, and the session that goes on or its ending. -/
structure Turn where
  output : String
  lines : Array String
  next : Except Ending Session

namespace Session

/-- What is shown at the end: the last screen, unless every frame was shown or none is wanted. -/
def lastPicture (session : Session) : String :=
  if session.quiet || session.host.live then
    ""
  else
    Terminal.render session.emulator.machine.screen

/-- The session at another time of the clock. -/
def atTime
    (session : Session)
    (nanoseconds : Nat) :
    Session :=
  { session with logger := { session.logger with now := nanoseconds } }

/-- Mount a program and get ready for its first frame. -/
def start
    (arguments : Arguments)
    (config : Config)
    (image : List UInt8)
    (entropy : UInt64) :
    Turn :=
  let live := arguments.realtime && !arguments.quiet
  let mounted := (Emulator.ofConfig config entropy).mount programMount image
  let (lines, logger) := (arguments.setLevels Logger.initial).recordAll mounted.events
  match mounted.result with
  | .error cause =>
      { output := ""
        lines
        next := .error (.failed (.programRejected arguments.program cause)) }
  | .ok () =>
      { output := if live then Terminal.clearSequence else ""
        lines
        next := .ok
          { emulator := mounted.state
            host := TerminalHost.holding arguments.keys arguments.frames live
            logger
            quiet := arguments.quiet } }

/-- Play one frame. -/
def advance (session : Session) : Turn :=
  let reply := session.emulator.runFrame session.host
  let (lines, logger) := session.logger.recordAll reply.events
  match reply.result with
  | .error (.error cause) =>
      { output := ""
        lines
        next := .error (.failed (.stopped (session.emulator.frames + 1) cause)) }
  | .error .crash =>
      { output := ""
        lines
        next := .error .crashed }
  | .ok false =>
      { output := session.lastPicture
        lines
        next := .error .finished }
  | .ok true =>
      { output := reply.state.2.pending
        lines
        next := .ok
          { session with
            emulator := reply.state.1
            host := reply.state.2.flushed
            logger } }

/-- Showing a screen uses up no frame. -/
theorem framesLeft_present
    (host : TerminalHost)
    (screen : Screen) :
    (Host.present host screen).framesLeft = host.framesLeft := by
  simp only [Host.present]
  split <;> rfl

/-- A frame behind which the driver goes on leaves fewer frames. -/
theorem framesLeft_runFrame_lt
    {emulator : Emulator}
    {host : TerminalHost}
    (continues : (emulator.runFrame host).result = .ok true) :
    (emulator.runFrame host).state.2.framesLeft.toNat < host.framesLeft.toNat := by
  by_cases spent : host.framesLeft = 0
  · simp [Emulator.runFrame, Host.poll, spent] at continues
  · have fewer : (host.framesLeft - 1).toNat < host.framesLeft.toNat :=
      Nat.lt_of_lt_of_eq (Nat.lt_succ_self _) (TerminalHost.framesLeft_toNat spent)
    unfold Emulator.runFrame at continues ⊢
    simp only [Host.poll, spent, if_false] at continues ⊢
    split at continues
    · cases continues
    · simp only [framesLeft_present]
      exact fewer

/-- A session that goes on has fewer frames left, so it comes to an end. -/
theorem framesLeft_advance_lt
    {session next : Session}
    (continues : session.advance.next = .ok next) :
    next.host.framesLeft.toNat < session.host.framesLeft.toNat := by
  unfold advance at continues
  dsimp only at continues
  split at continues
  · cases continues
  · cases continues
  · cases continues
  · rename_i goesOn
    cases continues
    exact framesLeft_runFrame_lt goesOn

end Session

/-- What a whole session has shown, piece by piece, and how it ended. -/
structure Transcript where
  output : Array String
  lines : Array String
  ending : Ending

/-- Play all frames, behind what was shown before. -/
def Session.playAfter
    (output lines : Array String)
    (session : Session) :
    Transcript :=
  let turn := session.advance
  match _next : turn.next with
  | .error ending =>
      { output := output.push turn.output
        lines := lines ++ turn.lines
        ending }
  | .ok next => next.playAfter (output.push turn.output) (lines ++ turn.lines)
  termination_by session.host.framesLeft.toNat
  decreasing_by
    exact framesLeft_advance_lt _next

/-- Everything from a first turn to the end. -/
def Turn.play (turn : Turn) : Transcript :=
  match turn.next with
  | .error ending =>
      { output := #[turn.output]
        lines := turn.lines
        ending }
  | .ok session => session.playAfter #[turn.output] turn.lines

end Chip8.CommandLine
