import Chip8.CommandLine.Session
import Chip8.CommandLine.Usage

namespace Chip8.CommandLine

/-!
# Runs

A whole run: arguments, files and then a session.  The steps that need files
work in every monad with a file store: on the files of the computer as well as
on a directory that is a value.
-/

/-- Access to files by their paths. -/
class FileStore (m : Type → Type) where
  /-- All bytes of a file. -/
  read : String → m (Except FileError (List UInt8))
  /-- Give a file new contents. -/
  write : String → List UInt8 → m (Except FileError Unit)
  /-- Write behind the end of a file. -/
  append : String → List UInt8 → m (Except FileError Unit)

/-- Change a directory, or leave it as it is. -/
def changeDirectory
    (change : Directory → Except FileError Directory) :
    StateM Directory (Except FileError Unit) :=
  fun directory =>
    match change directory with
    | .ok directory => (.ok (), directory)
    | .error cause => (.error cause, directory)

instance : FileStore (StateM Directory) where
  read path :=
    fun directory => (directory.read path, directory)
  write path bytes :=
    changeDirectory (·.write path bytes)
  append path bytes :=
    changeDirectory (·.append path bytes)

section Preparation

variable {m : Type → Type} [Monad m] [FileStore m]

/-- Turn the cause of a failed file operation into a failure of the run. -/
def orFail
    {α : Type}
    (failure : FileError → Failure)
    (operation : m (Except FileError α)) :
    ExceptT Failure m α :=
  ExceptT.mk (Except.mapError failure <$> operation)

/-- Make sure that the log file can be written. -/
def openLog (arguments : Arguments) : ExceptT Failure m Unit :=
  match arguments.logFile with
  | none => pure ()
  | some path => orFail (.logUnavailable path) (FileStore.append path [])

/-- What reading the configuration file gives. -/
def readConfigFile (arguments : Arguments) : m (Except FileError (List UInt8)) :=
  match arguments.config with
  | none => pure (.error .notFound)
  | some path => FileStore.read path

/-- The configuration of a run. -/
def loadConfig (arguments : Arguments) : ExceptT Failure m Config :=
  ExceptT.mk do
    let contents ← readConfigFile arguments
    return arguments.machineConfig fun _ => contents

/-- Write the configuration where the arguments ask for it. -/
def dumpConfig
    (arguments : Arguments)
    (config : Config) :
    ExceptT Failure m Unit :=
  match arguments.dumpConfig with
  | none => pure ()
  | some path =>
      orFail (.configNotWritten path) (FileStore.write path (Text.bytes config.text))

/-- The program image. -/
def readProgram (arguments : Arguments) : ExceptT Failure m (List UInt8) :=
  orFail (.programUnavailable arguments.program) (FileStore.read arguments.program)

/-- Do all that comes before the program is mounted, and return the first turn of the session. -/
def prepare
    (arguments : Arguments)
    (entropy : UInt64) :
    ExceptT Failure m (Config × Turn) := do
  openLog arguments
  let config ← loadConfig arguments
  dumpConfig arguments config
  let image ← readProgram arguments
  return (config, Session.start arguments config image entropy)

/-- What a run leaves behind. -/
structure Outcome where
  exitCode : Nat
  output : String
  errorOutput : String
  deriving Repr, DecidableEq

/-- Log lines as one text. -/
def textOfLines (lines : Array String) : String :=
  String.join (lines.toList.map (· ++ "\n"))

/-- The outcome of arguments that are not understood. -/
def usageOutcome : UsageError → Outcome
  | .helpWanted =>
      { exitCode := 0
        output := helpText
        errorOutput := "" }
  | error =>
      { exitCode := 2
        output := ""
        errorOutput := "error: " ++ error.message ++ "\n" }

/-- The outcome of a run that fails before its session. -/
def failureOutcome (failure : Failure) : Outcome where
  exitCode :=
    1
  output :=
    ""
  errorOutput :=
    failure.report

/-- The outcome of a session, whose log lines go to the log file if there is one. -/
def finish
    (arguments : Arguments)
    (transcript : Transcript) :
    m Outcome := do
  let lines := textOfLines transcript.lines
  let output := String.join transcript.output.toList
  let exitCode := transcript.ending.exitCode
  let report := transcript.ending.report
  match arguments.logFile with
  | none => return { exitCode, output, errorOutput := lines ++ report }
  | some path =>
      let _ ← FileStore.append path (Text.bytes lines)
      return { exitCode, output, errorOutput := report }

/-- A whole run. -/
def run
    (texts : List String)
    (entropy : UInt64) :
    m Outcome :=
  match Arguments.parse texts with
  | .error error => return usageOutcome error
  | .ok arguments => do
      match ← (prepare arguments entropy).run with
      | .error failure => return failureOutcome failure
      | .ok (_, turn) => finish arguments turn.play

end Preparation

end Chip8.CommandLine
