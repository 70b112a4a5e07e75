import Chip8.CommandLine.Run

/-!
# The program

The command line on the files, clock and streams of the computer.
-/

open Chip8 Chip8.CommandLine

/-- The file error that an error of the operating system stands for; its code may be negated. -/
def fileErrorOf : IO.Error → FileError
  | .noFileOrDirectory _ _ _ => .notFound
  | .inappropriateType file code details =>
      if code = 20 ∨ code = 0 - 20 then
        .notDirectory
      else if code = 21 ∨ code = 0 - 21 then
        .isDirectory
      else
        .other (toString (IO.Error.inappropriateType file code details))
  | .invalidArgument file code details =>
      if code = 36 ∨ code = 0 - 36 then
        .nameTooLong
      else
        .other (toString (IO.Error.invalidArgument file code details))
  | error => .other (toString error)

/-- Perform an operation on a file and keep its error as a value. -/
def tryFile
    {α : Type}
    (operation : IO α) :
    IO (Except FileError α) := do
  try
    return .ok (← operation)
  catch error =>
    return .error (fileErrorOf error)

instance : FileStore IO where
  read path :=
    tryFile do
      return (← IO.FS.readBinFile path).toList
  write path bytes :=
    tryFile (IO.FS.writeBinFile path ⟨bytes.toArray⟩)
  append path bytes :=
    tryFile do
      let handle ← IO.FS.Handle.mk path .append
      handle.write ⟨bytes.toArray⟩

/-- A number that is different for every run. -/
def freshEntropy : IO UInt64 := do
  let bytes ← IO.getRandomBytes 8
  return bytes.toList.foldl (fun number byte => number * 256 + byte.toUInt64) 0

/-- Show what a turn has to show. -/
def showTurn
    (arguments : Arguments)
    (turn : Turn) :
    IO Unit := do
  let output ← IO.getStdout
  output.putStr turn.output
  output.flush
  let lines := textOfLines turn.lines
  match arguments.logFile with
  | none => IO.eprint lines
  | some path =>
      let _ ← FileStore.append (m := IO) path (Text.bytes lines)

/-- Sleep for what is left of a frame that began at a given time in nanoseconds. -/
def awaitFrame
    (config : Config)
    (started : Nat) :
    IO Unit := do
  let elapsed := (← IO.monoNanosNow) - started
  let left := 1000000000 / config.frameRate.toNat - elapsed
  IO.sleep (UInt32.ofNat (left / 1000000))

/-- Play a session to its end on the clock of the computer, which was read at the beginning. -/
partial def playSession
    (arguments : Arguments)
    (config : Config)
    (beginning : Nat)
    (session : Session) :
    IO Ending := do
  let started ← IO.monoNanosNow
  let turn := (session.atTime (started - beginning)).advance
  showTurn arguments turn
  match turn.next with
  | .error ending => return ending
  | .ok session =>
      if arguments.realtime then
        awaitFrame config started
      playSession arguments config beginning session

/-- Play everything from a first turn on. -/
def playTurn
    (arguments : Arguments)
    (config : Config)
    (turn : Turn) :
    IO Ending := do
  showTurn arguments turn
  match turn.next with
  | .error ending => return ending
  | .ok session => playSession arguments config (← IO.monoNanosNow) session

/-- Run a program image as the arguments say. -/
def main (texts : List String) : IO UInt32 := do
  match Arguments.parse texts with
  | .error error =>
      let outcome := usageOutcome error
      IO.print outcome.output
      IO.eprint outcome.errorOutput
      return UInt32.ofNat outcome.exitCode
  | .ok arguments =>
      match ← (prepare (m := IO) arguments (← freshEntropy)).run with
      | .error failure =>
          IO.eprint failure.report
          return UInt32.ofNat (failureOutcome failure).exitCode
      | .ok (config, turn) =>
          let ending ← playTurn arguments config turn
          IO.eprint ending.report
          return UInt32.ofNat ending.exitCode
