import Chip8.Directory
import Chip8.Emulator
import Chip8.Json.Problem

namespace Chip8.CommandLine

/-!
# Failures

A run that cannot start or go on fails with what could not be done and why.  A
report names the failure first and then its causes, each on lines of its own.
-/

/-- Why a configuration cannot be loaded. -/
inductive ConfigError where
  | file (cause : FileError)
  | json (cause : Json.Error)
  deriving Repr, DecidableEq

namespace ConfigError

/-- The text that describes the cause. -/
def message : ConfigError → String
  | .file cause => cause.message
  | .json cause => cause.message

end ConfigError

/-- Why a run fails. -/
inductive Failure where
  | logUnavailable (path : String) (cause : FileError)
  | configUnavailable (path : String) (cause : ConfigError)
  | frameRateZero
  | configNotWritten (path : String) (cause : FileError)
  | programUnavailable (path : String) (cause : FileError)
  | programRejected (path : String) (cause : EmulationError)
  | stopped (frame : Nat) (cause : EmulationError)
  deriving Repr, DecidableEq

/-- The texts of an emulation error and its own causes. -/
def emulationTexts (error : EmulationError) : List String :=
  match error with
  | .load cause => [error.message, cause.message]
  | .fault _ _ | .noProgram | .invalidMountPoint _ => [error.message]

namespace Failure

/-- What could not be done. -/
def message : Failure → String
  | .logUnavailable path _ => "cannot open log file " ++ path
  | .configUnavailable path _ => "cannot load config " ++ path
  | .frameRateZero => "frame_rate_hz must be greater than zero"
  | .configNotWritten path _ => "cannot write config " ++ path
  | .programUnavailable path _ => "cannot read " ++ path
  | .programRejected path _ => "cannot load " ++ path
  | .stopped frame _ => s!"emulation stopped in frame {frame}"

/-- The causes, the nearest first. -/
def causes : Failure → List String
  | .logUnavailable _ cause => [cause.message]
  | .configUnavailable _ cause => [cause.message]
  | .frameRateZero => []
  | .configNotWritten _ cause => [cause.message]
  | .programUnavailable _ cause => [cause.message]
  | .programRejected _ cause => emulationTexts cause
  | .stopped _ cause => emulationTexts cause

/-- A failure and its causes, the outermost first. -/
def chain (failure : Failure) : List String :=
  failure.message :: failure.causes

end Failure

/-! ## Reports -/

/-- A text with a mark before its first line and blanks before the others. -/
def indented
    (mark : String)
    (text : String) :
    String :=
  let blanks := String.ofList (List.replicate mark.length ' ')
  mark ++ String.ofList (text.toList.flatMap fun c =>
    if c = '\n' then '\n' :: blanks.toList else [c])

/-- The mark of a cause among several: its number in five columns. -/
def numberMark (number : Nat) : String :=
  String.ofList ((Nat.toDigits 10 number).leftpad 5 ' ') ++ ": "

/-- The lines of the causes. -/
def causeLines : List String → List String
  | [] => []
  | [only] => [indented "    " only]
  | causes => causes.zipIdx.map fun (cause, number) => indented (numberMark number) cause

/-- The report on a failure. -/
def Failure.report (failure : Failure) : String :=
  match causeLines failure.causes with
  | [] => "Error: " ++ failure.message ++ "\n"
  | lines =>
      "Error: " ++ failure.message ++ "\n\nCaused by:\n" ++
        String.join (lines.map (· ++ "\n"))

end Chip8.CommandLine
