import Chip8.CommandLine.Arguments
import Chip8.CommandLine.Failure
import Chip8.Config.Json
import Chip8.Log.Logger
import Chip8.Text

namespace Chip8.CommandLine

/-!
# Settings of a run

What the arguments and the configuration file together say: the levels of the
logger and the configuration of the emulator, in which arguments have the last
word.
-/

namespace Arguments

/-- The logger with the levels that the arguments ask for. -/
def setLevels
    (arguments : Arguments)
    (logger : Logger) :
    Logger :=
  let logger :=
    match arguments.logLevel with
    | some level => logger.setGlobalLevel level
    | none => logger
  match arguments.cpuLogLevel with
  | some level => logger.setLevel .cpu level
  | none => logger

/-- The configuration with what the arguments say instead. -/
def override
    (arguments : Arguments)
    (config : Config) :
    Config where
  semantics :=
    if arguments.corrected then .corrected else config.semantics
  cyclesPerFrame :=
    arguments.cycles.getD config.cyclesPerFrame
  timerTicksPerFrame :=
    config.timerTicksPerFrame
  frameRate :=
    config.frameRate
  seed :=
    arguments.seed.orElse fun _ => config.seed

end Arguments

/-- The configuration in the bytes of a file. -/
def configOfBytes (bytes : List UInt8) : Except ConfigError Config :=
  match Text.ofBytes? bytes with
  | none => .error (.file .notText)
  | some text => (Config.parse text).mapError .json

/-- The configuration that reading a file has given. -/
def configOfFile : Except FileError (List UInt8) → Except ConfigError Config
  | .error cause => .error (.file cause)
  | .ok bytes => configOfBytes bytes

/-- Refuse a configuration without frames. -/
def checkFrameRate (config : Config) : Except Failure Config :=
  if config.frameRate = 0 then
    .error .frameRateZero
  else
    .ok config

/-- The configuration of a run, given what each file holds. -/
def Arguments.machineConfig
    (arguments : Arguments)
    (read : String → Except FileError (List UInt8)) :
    Except Failure Config :=
  match arguments.config with
  | none => checkFrameRate (arguments.override Config.standard)
  | some path =>
      match configOfFile (read path) with
      | .error cause => .error (.configUnavailable path cause)
      | .ok config => checkFrameRate (arguments.override config)

end Chip8.CommandLine
