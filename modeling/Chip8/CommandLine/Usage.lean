import Chip8.CommandLine.Arguments

namespace Chip8.CommandLine

/-!
# Usage

What is printed about the arguments themselves: the help text, and one line
about what is wrong with them.
-/

namespace Setting

/-- How a setting is written. -/
def form : Setting → String
  | .program => "<PROGRAM>"
  | .frames => "--frames <COUNT>"
  | .config => "--config <FILE>"
  | .dumpConfig => "--dump-config <FILE>"
  | .seed => "--seed <NUMBER>"
  | .cycles => "--cycles <COUNT>"
  | .keys => "--keys <KEYS>"
  | .logLevel => "--log-level <LEVEL>"
  | .cpuLogLevel => "--log-cpu <LEVEL>"
  | .logFile => "--log-file <FILE>"

end Setting

namespace Flag

/-- How a flag is written. -/
def form : Flag → String
  | .corrected => "--corrected"
  | .realtime => "--realtime"
  | .quiet => "--quiet"

end Flag

namespace UsageError

/-- The text that describes what is wrong. -/
def message : UsageError → String
  | .helpWanted => "help was asked for"
  | .noProgram => "no program was named"
  | .unknown argument => "unexpected argument '" ++ argument ++ "'"
  | .noValue setting => "a value is required for '" ++ setting.form ++ "'"
  | .badValue setting value => "invalid value '" ++ value ++ "' for '" ++ setting.form ++ "'"
  | .settingRepeated setting => "'" ++ setting.form ++ "' cannot be given more than once"
  | .flagRepeated flag => "'" ++ flag.form ++ "' cannot be given more than once"
  | .valueUnwanted argument => "unexpected value in '" ++ argument ++ "'"

end UsageError

/-- Every argument with what it is for. -/
def argumentTable : List (String × String) :=
  [ (Setting.program.form, "Path of the program image")
  , (Setting.frames.form, "Number of frames to run (60)")
  , (Setting.config.form, "Configuration to start from, as JSON")
  , (Setting.dumpConfig.form, "Write the configuration in force to this file")
  , (Flag.corrected.form, "Use the corrected reading of 8xy0, Bnnn and Fx65")
  , (Setting.seed.form, "Seed of the random numbers")
  , (Setting.cycles.form, "Instructions in a frame")
  , (Setting.keys.form, "Keys held down all the time, for instance 1,a,f")
  , (Flag.realtime.form, "Show every frame, at the configured rate")
  , (Flag.quiet.form, "Show no frames")
  , (Setting.logLevel.form, "Log level of every category: off, error, warn, info, debug, trace")
  , (Setting.cpuLogLevel.form, "Log level of instructions and faults")
  , (Setting.logFile.form, "Write the log to this file")
  , ("-h, --help", "Show this text") ]

/-- The width of the first column of the help text. -/
def formWidth : Nat :=
  argumentTable.foldl (fun width (form, _) => max width form.length) 0

/-- One line of the help text. -/
def helpLine : String × String → String
  | (form, purpose) =>
      "  " ++ String.ofList (form.toList.rightpad formWidth ' ') ++ "  " ++ purpose ++ "\n"

/-- The help text. -/
def helpText : String :=
  "Run a CHIP-8 program in the terminal\n\nUsage: chip8 [OPTIONS] <PROGRAM>\n\n" ++
    String.join (argumentTable.map helpLine)

end Chip8.CommandLine
