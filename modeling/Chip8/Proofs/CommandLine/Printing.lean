import Chip8.CommandLine.Run
import Chip8.Proofs.CommandLine.Playing
import Chip8.Proofs.Screen.Rendering
import Mathlib.Data.List.Basic

namespace Chip8.CommandLine

/-!
# What a run prints

A run that gets its program mounted prints what driving a fresh emulator gives:
live, every screen as it is completed; otherwise the last one, unless a fault
comes before it; and nothing when it is to be quiet.  The exit code and the
report are those of the driving, however the screens are shown.
-/

/-- What driving a fresh emulator gives under the keys and for the frames of the arguments. -/
def drivenAfresh
    (arguments : Arguments)
    (config : Config)
    (image : List UInt8)
    (entropy : UInt64) :
    Driven :=
  ((Emulator.ofConfig config entropy).mount programMount image).state.drive
    (Keypad.holding arguments.keys) arguments.frames.toNat

/-- The log lines that a run prints before its report, each with its end, unless a file has them. -/
def loggedText
    (arguments : Arguments)
    (transcript : Transcript) :
    String :=
  if arguments.logFile.isSome then
    ""
  else
    String.join (transcript.lines.toList.map (· ++ "\n"))

/-! ## Texts -/

/-- The line of a row: 64 characters, a blank where a pixel is zero and a block elsewhere. -/
def lineText
    (screen : Screen)
    (y : Nat) :
    String :=
  String.ofList
    ((List.range 64).map fun x => if screen.pixels[y * 64 + x]? = some 0 then ' ' else '█')

/-- The text of a picture: 32 lines, each with its end. -/
def pictureText (screen : Screen) : String :=
  String.join ((List.range 32).map fun y => lineText screen y ++ "\n")

/-- What a fault is called. -/
def faultText : Fault → String
  | .stackOverflow => "Stack overflow: more than 16 nested calls"
  | .stackUnderflow => "Stack underflow: return with empty stack"
  | .memoryOutOfRange address => "Memory access out of range at 0x" ++ Hex.numeral 4 address
  | .keyOutOfRange key => "Key index out of range: 0x" ++ Hex.numeral 2 key.toNat

/-- The report on a fault that a step met in a frame. -/
def faultReport
    (frame : Nat)
    (address : UInt16)
    (cause : Fault) :
    String :=
  "Error: emulation stopped in frame " ++ toString frame ++
    "\n\nCaused by:\n    Fault at PC=" ++ Hex.numeral 4 address.toNat ++ ": " ++
    faultText cause ++ "\n"

/-- The text of a fault says what the fault is called. -/
theorem faultText_eq_message
    (cause : Fault) :
    faultText cause = cause.message := by
  cases cause <;> rfl

/-- A text of one line is indented by its mark alone. -/
theorem indented_of_oneLine
    {text : String}
    (oneLine : OneLine text)
    (mark : String) :
    indented mark text = mark ++ text := by
  have kept :
      (text.toList.flatMap fun c =>
        if c = '\n' then '\n' :: (String.ofList (List.replicate mark.length ' ')).toList else [c]) =
          text.toList := by
    rw [List.flatMap_congr (g := fun c => [c]), List.flatMap_singleton']
    intro c member
    refine if_neg ?_
    rintro rfl
    exact oneLine member
  rw [indented, kept, String.ofList_toList]

/-- A run that a fault has stopped reports the frame, the address and the fault. -/
theorem report_of_fault
    (frame : Nat)
    (address : UInt16)
    (cause : Fault) :
    (Failure.stopped frame (.fault address cause)).report = faultReport frame address cause := by
  have oneLine :
      OneLine ("Fault at PC=" ++ Hex.numeral 4 address.toNat ++ ": " ++ cause.message) := by
    have marks : OneLine "Fault at PC=" ∧ OneLine ": " := by
      simp [OneLine]
    simp only [OneLine.append_iff]
    exact ⟨⟨⟨marks.1, OneLine.hexadecimal _ _⟩, marks.2⟩, cause.message_oneLine⟩
  have lines :
      causeLines (Failure.stopped frame (.fault address cause)).causes =
        ["    " ++ ("Fault at PC=" ++ Hex.numeral 4 address.toNat ++ ": " ++ cause.message)] :=
    congrArg (fun line => [line]) (indented_of_oneLine oneLine "    ")
  have message :
      (Failure.stopped frame (.fault address cause)).message =
        "emulation stopped in frame " ++ toString frame :=
    rfl
  unfold Failure.report faultReport
  rw [lines, message, faultText_eq_message]
  apply String.toList_inj.mp
  simp

/-- A screen is written as the text of its picture. -/
theorem render_eq_pictureText
    (screen : Screen) :
    Terminal.render screen = pictureText screen := by
  rw [screen.render_eq_join, screen.textLines_toFrame, pictureText, List.map_map]
  apply congrArg String.join
  apply List.map_congr_left
  intro y row
  apply congrArg (· ++ "\n")
  apply congrArg String.ofList
  apply List.map_congr_left
  intro x column
  obtain ⟨value, found, isOn⟩ :=
    screen.pixel_of_place (List.mem_range.mp column) (List.mem_range.mp row)
  rw [found]
  by_cases zero : value = 0 <;> simp [Terminal.pixelChar, isOn, zero]

/-- The lines of a picture are the rows that its pixels are cut into. -/
theorem pictureText_of_pixels
    {screen : Screen}
    {pixels : List UInt32}
    (holds : screen.pixels.toList = pixels) :
    pictureText screen =
      String.join ((List.range 32).map fun y =>
        String.ofList (((pixels.drop (y * 64)).take 64).map fun pixel =>
          if pixel = 0 then ' ' else '█') ++ "\n") := by
  rw [← render_eq_pictureText, screen.render_eq_join, Frame.textLines, screen.toFrame_rows, holds,
    List.map_map, List.map_map]
  rfl

/-! ## Outcomes -/

/-- The outcome of a run that prints what was driven, and what was logged. -/
structure Outcome.Prints
    (outcome : Outcome)
    (arguments : Arguments)
    (driven : Driven)
    (logged : String) : Prop where
  /-- The terminal is cleared once, and every picture is written over the one before it. -/
  live :
    arguments.realtime = true →
    arguments.quiet = false →
    outcome.output =
      "\x1b[2J" ++ String.join (driven.screens.map fun screen => "\x1b[H" ++ pictureText screen)
  plain :
    arguments.realtime = false →
    arguments.quiet = false →
    outcome.output =
      if driven.halt.isNone then pictureText driven.last.machine.screen else ""
  quiet :
    arguments.quiet = true →
    outcome.output = ""
  /-- Either all frames are completed, or the run stops with the fault of the next one. -/
  ending :
    (driven.halt = none ∧
        driven.screens.length = arguments.frames.toNat ∧
        outcome.exitCode = 0 ∧
        outcome.errorOutput = logged) ∨
      ∃ cause,
        driven.halt = some (.error (.fault driven.last.machine.pc cause)) ∧
          outcome.exitCode = 1 ∧
          outcome.errorOutput =
            logged ++
              faultReport (driven.screens.length + 1) driven.last.machine.pc cause
  /-- The last block of a live run shows what another run shows at its end. -/
  lastBlock :
    driven.halt = none →
    driven.screens ≠ [] →
    driven.screens.getLast? = some driven.last.machine.screen

/-! ## Steps on a directory -/

section Steps

variable {α β : Type} {directory after : Directory} {arguments : Arguments}

/-- Do a step that may fail on a directory. -/
def onDirectory
    (step : ExceptT Failure (StateM Directory) α)
    (directory : Directory) :
    Except Failure α × Directory :=
  (step.run.run directory).run

/-- Two steps succeed when both of them do, the second where the first has left the directory. -/
theorem bind_eq_ok
    {first : ExceptT Failure (StateM Directory) α}
    {next : α → ExceptT Failure (StateM Directory) β}
    {result : β}
    (succeeds : onDirectory (first >>= next) directory = (.ok result, after)) :
    ∃ value between,
      onDirectory first directory = (.ok value, between) ∧
        onDirectory (next value) between = (.ok result, after) := by
  have split :
      onDirectory (first >>= next) directory =
        match onDirectory first directory with
        | (.ok value, between) => onDirectory (next value) between
        | (.error failure, between) => (.error failure, between) := by
    simp only [onDirectory, ExceptT.run_bind, StateT.run_bind, Id.run_bind]
    rcases (first.run.run directory).run with ⟨_ | _, between⟩ <;> rfl
  rw [split] at succeeds
  rcases done : onDirectory first directory with ⟨_ | value, between⟩
  · rw [done] at succeeds
    cases succeeds
  · rw [done] at succeeds
    exact ⟨value, between, rfl, succeeds⟩

/-- Reading the program leaves the directory as it is and gives what its file holds. -/
theorem readProgram_eq_ok
    {image : List UInt8}
    (succeeds : onDirectory (readProgram arguments) directory = (.ok image, after)) :
    after.read arguments.program = .ok image := by
  have reads :
      onDirectory (readProgram arguments) directory =
        ((directory.read arguments.program).mapError (.programUnavailable arguments.program),
          directory) :=
    rfl
  rw [reads] at succeeds
  obtain ⟨result, rfl⟩ := Prod.mk.inj succeeds
  cases contents : directory.read arguments.program with
  | error =>
      rw [contents] at result
      cases result
  | ok =>
      rw [contents] at result
      exact congrArg Except.ok (Except.ok.inj result)

/-- A run that is prepared starts a session with the image that its program file holds. -/
theorem prepare_eq_ok
    {entropy : UInt64}
    {config : Config}
    {turn : Turn}
    (succeeds : onDirectory (prepare arguments entropy) directory = (.ok (config, turn), after)) :
    ∃ image,
      after.read arguments.program = .ok image ∧
        turn = Session.start arguments config image entropy := by
  obtain ⟨_, opened, _, succeeds⟩ := bind_eq_ok succeeds
  obtain ⟨loaded, configured, _, succeeds⟩ := bind_eq_ok succeeds
  obtain ⟨_, dumped, _, succeeds⟩ := bind_eq_ok succeeds
  obtain ⟨image, between, reads, succeeds⟩ := bind_eq_ok succeeds
  have same :
      (Except.ok (loaded, Session.start arguments loaded image entropy), between) =
        (Except.ok (config, turn), after) :=
    succeeds
  cases same
  exact ⟨image, readProgram_eq_ok reads, rfl⟩

/-- The outcome of a session: what it has shown, what was logged and how it has ended. -/
def outcomeOf
    (arguments : Arguments)
    (transcript : Transcript) :
    Outcome where
  exitCode :=
    transcript.ending.exitCode
  output :=
    String.join transcript.output.toList
  errorOutput :=
    loggedText arguments transcript ++ transcript.ending.report

/--
Where a session is finished only its log goes elsewhere; the outcome is that of
its transcript.
-/
theorem finish_outcome
    (arguments : Arguments)
    (transcript : Transcript)
    (directory : Directory) :
    ((finish arguments transcript : StateM Directory Outcome).run directory).run.1 =
      outcomeOf arguments transcript := by
  unfold finish outcomeOf loggedText
  cases arguments.logFile with
  | none =>
      rfl
  | some path =>
      simp only [Option.isSome_some, if_true, String.empty_append]
      rfl

/-- A run whose arguments are understood and that is prepared plays its session to the end. -/
theorem run_outcome
    {texts : List String}
    {entropy : UInt64}
    {config : Config}
    {turn : Turn}
    (parsed : Arguments.parse texts = .ok arguments)
    (prepared : onDirectory (prepare arguments entropy) directory = (.ok (config, turn), after)) :
    ((run texts entropy : StateM Directory Outcome).run directory).run.1 =
      outcomeOf arguments turn.play := by
  rw [← finish_outcome arguments turn.play after]
  unfold onDirectory at prepared
  simp only [run, parsed, StateT.run_bind, Id.run_bind]
  rw [prepared]

end Steps

/-! ## Sessions -/

section Sessions

variable {arguments : Arguments} {config : Config} {image : List UInt8} {entropy : UInt64}

/-- The session of a program that has just been mounted. -/
def firstSession
    (arguments : Arguments)
    (config : Config)
    (image : List UInt8)
    (entropy : UInt64)
    (logger : Logger) :
    Session where
  emulator :=
    ((Emulator.ofConfig config entropy).mount programMount image).state
  host :=
    TerminalHost.holding arguments.keys arguments.frames (arguments.realtime && !arguments.quiet)
  logger :=
    logger
  quiet :=
    arguments.quiet

/-- A session on a mounted program shows what driving a fresh emulator gives. -/
theorem start_play
    (mounts : ((Emulator.ofConfig config entropy).mount programMount image).result = .ok ()) :
    String.join (Session.start arguments config image entropy).play.output.toList =
        (if arguments.realtime && !arguments.quiet then
          Terminal.clearSequence ++
            String.join ((drivenAfresh arguments config image entropy).screens.map liveBlock)
        else if arguments.quiet || (drivenAfresh arguments config image entropy).halt.isSome then
          ""
        else
          Terminal.render (drivenAfresh arguments config image entropy).last.machine.screen) ∧
      (Session.start arguments config image entropy).play.ending =
        endingOf 0 (drivenAfresh arguments config image entropy) := by
  obtain ⟨mounted, fresh⟩ := Emulator.mount_of_ok mounts
  let clearing :=
    if arguments.realtime && !arguments.quiet then Terminal.clearSequence else ""
  obtain ⟨lines, logger, started⟩ :
      ∃ lines logger,
        Session.start arguments config image entropy =
          { output := clearing
            lines
            next := .ok (firstSession arguments config image entropy logger) } := by
    simp only [Session.start, mounts]
    exact ⟨_, _, rfl⟩
  have driven :
      (firstSession arguments config image entropy logger).driven =
        drivenAfresh arguments config image entropy :=
    rfl
  have played :
      (firstSession arguments config image entropy logger).ShowsDriven #[clearing] lines :=
    Session.playAfter_shows mounted rfl #[clearing] lines
  rw [started, Turn.play]
  dsimp only
  rw [played.shows, played.ends, driven, Session.shown]
  refine ⟨?_, congrArg (endingOf · _) fresh⟩
  cases live : arguments.realtime && !arguments.quiet <;>
    simp [firstSession, TerminalHost.holding, clearing, live, String.join]

/-- A session on a mounted program prints what driving the same fresh emulator gives. -/
theorem play_prints
    (mounts : ((Emulator.ofConfig config entropy).mount programMount image).result = .ok ())
    (survives : (drivenAfresh arguments config image entropy).halt ≠ some .crash) :
    (outcomeOf arguments (Session.start arguments config image entropy).play).Prints arguments
      (drivenAfresh arguments config image entropy)
      (loggedText arguments (Session.start arguments config image entropy).play) := by
  obtain ⟨mounted, -⟩ := Emulator.mount_of_ok mounts
  obtain ⟨shows, ends⟩ := start_play mounts
  have completed :
      (drivenAfresh arguments config image entropy).halt = none →
      (drivenAfresh arguments config image entropy).screens.length = arguments.frames.toNat ∧
        (drivenAfresh arguments config image entropy).last.machine.screen =
          (drivenAfresh arguments config image entropy).screens.getLast?.getD
            ((Emulator.ofConfig config entropy).mount programMount image).state.machine.screen :=
    Emulator.drive_of_completed
  have stopped
      {halt : Halt} :
      (drivenAfresh arguments config image entropy).halt = some halt →
      halt = .crash ∨
        ∃ cause,
          halt =
            .error (.fault (drivenAfresh arguments config image entropy).last.machine.pc cause) :=
    Emulator.drive_halt mounted
  rw [outcomeOf, shows, ends]
  -- From here on it does not matter where the screens come from.
  generalize drivenAfresh arguments config image entropy = driven at *
  have blocks :
      driven.screens.map liveBlock =
        driven.screens.map fun screen => "\x1b[H" ++ pictureText screen :=
    List.map_congr_left fun screen _ => congrArg ("\x1b[H" ++ ·) (render_eq_pictureText screen)
  constructor
  case live =>
    intro realtime loud
    simp only [realtime, loud, blocks]
    rfl
  case plain =>
    intro still loud
    cases driven.halt <;> simp [still, loud, render_eq_pictureText]
  case quiet =>
    intro quiet
    simp [quiet]
  case ending =>
    cases halted : driven.halt with
    | none =>
        refine .inl ⟨rfl, (completed halted).1, ?_, ?_⟩
        · rw [endingOf_of_completed halted]
          rfl
        · rw [endingOf_of_completed halted]
          exact String.append_empty
    | some halt =>
        rcases stopped halted with rfl | ⟨cause, rfl⟩
        · exact absurd halted survives
        · refine .inr ⟨cause, rfl, ?_, ?_⟩
          · rw [endingOf_of_stopped halted]
            rfl
          · rw [endingOf_of_stopped halted, Nat.zero_add]
            exact congrArg (_ ++ ·) (report_of_fault _ _ cause)
  case lastBlock =>
    intro finished shown
    obtain ⟨last, found⟩ := Option.ne_none_iff_exists'.mp (mt List.getLast?_eq_none_iff.mp shown)
    rw [(completed finished).2, found, Option.getD_some]

/-- Under a fixed seed every fresh emulator is driven alike. -/
theorem drivenAfresh_of_seeded
    {seed : UInt64}
    (seeded : config.seed = some seed)
    (arguments : Arguments)
    (image : List UInt8)
    (entropy other : UInt64) :
    ((Emulator.ofConfig config other).mount programMount image).result =
        ((Emulator.ofConfig config entropy).mount programMount image).result ∧
      drivenAfresh arguments config image other =
        { drivenAfresh arguments config image entropy with
          last := (drivenAfresh arguments config image entropy).last.withEntropy other } := by
  have fresh :
      Emulator.ofConfig config other = (Emulator.ofConfig config entropy).withEntropy other := by
    simp [Emulator.ofConfig, Emulator.withEntropy, Config.seedOr, seeded]
  have configured : (Emulator.ofConfig config entropy).config.seed = some seed :=
    seeded
  obtain ⟨result, state⟩ :=
    Emulator.mount_withEntropy configured programMount image other
  rw [drivenAfresh, fresh, result, state, Emulator.drive_withEntropy]
  exact ⟨rfl, rfl⟩

/--
A run under a fixed seed that gets its program mounted, and in which no step
crashes, prints what driving any fresh emulator gives and ends as the driving
does.
-/
theorem run_prints
    {texts : List String}
    {directory after : Directory}
    {turn : Turn}
    {seed other : UInt64}
    (parsed : Arguments.parse texts = .ok arguments)
    (prepared : onDirectory (prepare arguments entropy) directory = (.ok (config, turn), after))
    (held : after.read arguments.program = .ok image)
    (seeded : config.seed = some seed)
    (mounts : ((Emulator.ofConfig config other).mount programMount image).result = .ok ())
    (survives : (drivenAfresh arguments config image other).halt ≠ some .crash) :
    ((run texts entropy : StateM Directory Outcome).run directory).run.1.Prints arguments
      (drivenAfresh arguments config image other) (loggedText arguments turn.play) := by
  obtain ⟨read, reads, rfl⟩ := prepare_eq_ok prepared
  obtain rfl := Except.ok.inj (reads.symm.trans held)
  obtain ⟨mountsAlike, drivenAlike⟩ :=
    drivenAfresh_of_seeded seeded arguments read entropy other
  have prints :=
    play_prints (mountsAlike.symm.trans mounts) fun crashes =>
      survives ((congrArg Driven.halt drivenAlike).trans crashes)
  rw [run_outcome parsed prepared, drivenAlike]
  -- The entropy of the emulator at the end is seen in none of the parts.
  exact ⟨prints.live, prints.plain, prints.quiet, prints.ending, prints.lastBlock⟩

/-- A program that draws its own first byte and returns from a call that was not made. -/
def returning : List UInt8 :=
  [0xA2, 0x00, 0xD0, 0x01, 0x00, 0xEE]

/-- Arguments for three frames of two instructions each, shown live. -/
def threeFrames : Arguments :=
  { Arguments.standard "game.ch8" with
    frames := 3
    cycles := some 2
    seed := some 7
    realtime := true }

/-- The configuration that comes of them. -/
def twoCycles : Config :=
  threeFrames.override Config.standard

/-- A text of blanks. -/
def blanks (count : Nat) : String :=
  String.ofList (List.replicate count ' ')

/-- The first frame of three is shown, and the run stops with the fault of the second one. -/
theorem threeFrames_printed :
    let outcome :=
      ((run ["game.ch8", "--frames", "3", "--cycles=2", "--seed", "7", "--realtime"] 5 :
        StateM Directory Outcome).run ⟨[("game.ch8", returning)]⟩).run.1
    (drivenAfresh threeFrames twoCycles returning 6).screens.length = 1 ∧
      (drivenAfresh threeFrames twoCycles returning 6).halt =
        some (.error (.fault 0x204 .stackUnderflow)) ∧
      outcome.Prints threeFrames (drivenAfresh threeFrames twoCycles returning 6)
        (loggedText threeFrames (Session.start threeFrames twoCycles returning 5).play) ∧
      outcome.output =
        "\x1b[2J\x1b[H█ █   █ " ++ blanks 56 ++ "\n" ++
          String.join (List.replicate 31 (blanks 64 ++ "\n")) ∧
      outcome.exitCode = 1 ∧
      outcome.errorOutput =
        "Error: emulation stopped in frame 2\n\nCaused by:\n" ++
          "    Fault at PC=0204: Stack underflow: return with empty stack\n" := by
  intro outcome
  have parsed :
      Arguments.parse ["game.ch8", "--frames", "3", "--cycles=2", "--seed", "7", "--realtime"] =
        .ok threeFrames := by
    rfl
  have found :
      Directory.read ⟨[("game.ch8", returning)]⟩ threeFrames.program = .ok returning := by
    rfl
  have prepared :
      onDirectory (prepare threeFrames 5) ⟨[("game.ch8", returning)]⟩ =
        (.ok (twoCycles, Session.start threeFrames twoCycles returning 5),
          ⟨[("game.ch8", returning)]⟩) := by
    rfl
  have drives :
      (drivenAfresh threeFrames twoCycles returning 6).screens.map (fun screen =>
          screen.pixels.toList) =
        [[0xFFFFFFFF, 0, 0xFFFFFFFF, 0, 0, 0, 0xFFFFFFFF] ++ List.replicate 2041 0] ∧
      (drivenAfresh threeFrames twoCycles returning 6).halt =
        some (.error (.fault 0x204 .stackUnderflow)) := by
    decide +kernel
  obtain ⟨drawn, stops⟩ := drives
  obtain ⟨screen, shown, pixels⟩ := List.map_eq_singleton_iff.mp drawn
  have mounts :
      ((Emulator.ofConfig twoCycles 6).mount programMount returning).result = .ok () := by
    rfl
  have survives : (drivenAfresh threeFrames twoCycles returning 6).halt ≠ some .crash := by
    rw [stops]
    decide
  have prints := run_prints parsed prepared found rfl mounts survives
  refine ⟨congrArg List.length shown, stops, prints, ?_, ?_⟩
  · rw [prints.live rfl rfl, shown, List.map_singleton, pictureText_of_pixels pixels]
    decide +kernel
  · rcases prints.ending with ⟨completes, -⟩ | ⟨cause, halted, code, report⟩
    · rw [stops] at completes
      cases completes
    · rw [stops] at halted
      simp only [Option.some.injEq, Halt.error.injEq, EmulationError.fault.injEq] at halted
      obtain ⟨address, rfl⟩ := halted
      refine ⟨code, ?_⟩
      rw [report, shown, List.length_singleton, ← address]
      decide +kernel

end Sessions

end Chip8.CommandLine
