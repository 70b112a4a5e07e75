import Chip8.Decimal
import Chip8.Keypad.Text
import Chip8.Log.Level

namespace Chip8.CommandLine

/-!
# Arguments

The arguments of a command line name one program image and, in any order,
settings with a value and flags without one.  A value stands behind its setting
or behind an equals sign.  It is judged when the next argument has been
recognized, so an unknown argument is reported before a bad value next to it.
-/

/-- What the arguments say. -/
structure Arguments where
  program : String
  frames : UInt32
  config : Option String
  dumpConfig : Option String
  corrected : Bool
  seed : Option UInt64
  cycles : Option UInt32
  keys : List UInt8
  realtime : Bool
  quiet : Bool
  logLevel : Option Level
  cpuLogLevel : Option Level
  logFile : Option String
  deriving Repr, DecidableEq

namespace Arguments

/-- The arguments that hold where nothing else is said, for a program. -/
def standard (program : String) : Arguments where
  program :=
    program
  frames :=
    60
  config :=
    none
  dumpConfig :=
    none
  corrected :=
    false
  seed :=
    none
  cycles :=
    none
  keys :=
    []
  realtime :=
    false
  quiet :=
    false
  logLevel :=
    none
  cpuLogLevel :=
    none
  logFile :=
    none

end Arguments

/-- What takes a value; the program is the only one without a name. -/
inductive Setting where
  | program
  | frames
  | config
  | dumpConfig
  | seed
  | cycles
  | keys
  | logLevel
  | cpuLogLevel
  | logFile
  deriving Repr, DecidableEq

namespace Setting

/-- The setting of a name. -/
def ofName? : String → Option Setting
  | "frames" => some .frames
  | "config" => some .config
  | "dump-config" => some .dumpConfig
  | "seed" => some .seed
  | "cycles" => some .cycles
  | "keys" => some .keys
  | "log-level" => some .logLevel
  | "log-cpu" => some .cpuLogLevel
  | "log-file" => some .logFile
  | _ => none

end Setting

/-- What takes no value. -/
inductive Flag where
  | corrected
  | realtime
  | quiet
  deriving Repr, DecidableEq

namespace Flag

/-- The flag of a name. -/
def ofName? : String → Option Flag
  | "corrected" => some .corrected
  | "realtime" => some .realtime
  | "quiet" => some .quiet
  | _ => none

/-- Whether a flag is raised. -/
def isRaised
    (arguments : Arguments) :
    Flag → Bool
  | .corrected => arguments.corrected
  | .realtime => arguments.realtime
  | .quiet => arguments.quiet

/-- Raise a flag. -/
def raise
    (arguments : Arguments) :
    Flag → Arguments
  | .corrected => { arguments with corrected := true }
  | .realtime => { arguments with realtime := true }
  | .quiet => { arguments with quiet := true }

end Flag

/-- Why arguments are not understood. -/
inductive UsageError where
  /-- The arguments ask for help. -/
  | helpWanted
  | noProgram
  | unknown (argument : String)
  /-- A setting without a value, or a path without a character. -/
  | noValue (setting : Setting)
  | badValue (setting : Setting) (value : String)
  | settingRepeated (setting : Setting)
  | flagRepeated (flag : Flag)
  /-- A value for what takes none. -/
  | valueUnwanted (argument : String)
  deriving Repr, DecidableEq

/-! ## Values -/

namespace Setting

/-- Read a path. -/
def path
    (setting : Setting)
    (value : String) :
    Except UsageError String :=
  if value.isEmpty then
    .error (.noValue setting)
  else
    .ok value

/-- Read a number of thirty-two bits; zero may have a minus sign. -/
def word
    (setting : Setting)
    (value : String) :
    Except UsageError UInt32 :=
  match Decimal.integer? value.toList with
  | some number =>
      if 0 ≤ number ∧ number.toNat < UInt32.size then
        .ok (UInt32.ofNat number.toNat)
      else
        .error (.badValue setting value)
  | none =>
      .error (.badValue setting value)

/-- Read a number of sixty-four bits. -/
def longWord
    (setting : Setting)
    (value : String) :
    Except UsageError UInt64 :=
  match Decimal.natural? value.toList with
  | some number =>
      if number < UInt64.size then
        .ok (UInt64.ofNat number)
      else
        .error (.badValue setting value)
  | none =>
      .error (.badValue setting value)

/-- Read keys between commas. -/
def keyList
    (setting : Setting)
    (value : String) :
    Except UsageError (List UInt8) :=
  ((value.toList.splitOn ',').mapM fun key => Keypad.parseKey (String.ofList key)).mapError
    fun _ => .badValue setting value

/-- Read a level. -/
def level
    (setting : Setting)
    (value : String) :
    Except UsageError Level :=
  (Level.parse value).mapError fun _ => .badValue setting value

/-- Put the value of a setting into the arguments; keys join those before them. -/
def accept
    (arguments : Arguments)
    (value : String) :
    Setting → Except UsageError Arguments
  | .program =>
      (path .program value).map fun program => { arguments with program }
  | .frames =>
      (word .frames value).map fun frames => { arguments with frames }
  | .config =>
      (path .config value).map fun config => { arguments with config := some config }
  | .dumpConfig =>
      (path .dumpConfig value).map fun path => { arguments with dumpConfig := some path }
  | .seed =>
      (longWord .seed value).map fun seed => { arguments with seed := some seed }
  | .cycles =>
      (word .cycles value).map fun cycles => { arguments with cycles := some cycles }
  | .keys =>
      (keyList .keys value).map fun keys => { arguments with keys := arguments.keys ++ keys }
  | .logLevel =>
      (level .logLevel value).map fun level => { arguments with logLevel := some level }
  | .cpuLogLevel =>
      (level .cpuLogLevel value).map fun level => { arguments with cpuLogLevel := some level }
  | .logFile =>
      (path .logFile value).map fun path => { arguments with logFile := some path }

/-- Whether a setting may be given again. -/
def mayRepeat (setting : Setting) : Bool :=
  setting = .keys

end Setting

/-! ## Forms of arguments -/

/-- The form of an argument. -/
inductive Token where
  /-- A name behind two dashes, and a value behind an equals sign. -/
  | named (name : String) (value : Option String)
  /-- A letter behind one dash. -/
  | lettered (letter : Char)
  | plain
  deriving Repr, DecidableEq

namespace Token

/-- A name and the value behind the first equals sign. -/
def splitName (text : List Char) : Token :=
  let name := text.takeWhile (· != '=')
  match text.drop name.length with
  | [] => .named (String.ofList name) none
  | _ :: value => .named (String.ofList name) (some (String.ofList value))

/-- The form of an argument; a dash alone is a plain one. -/
def ofText (text : String) : Token :=
  match text.toList with
  | '-' :: '-' :: rest => splitName rest
  | '-' :: letter :: _ => .lettered letter
  | _ => .plain

end Token

/-! ## Reading -/

/-- A setting whose value is still to come or still to be judged. -/
structure Pending where
  setting : Setting
  value : Option String
  deriving Repr, DecidableEq

/-- What has been read so far. -/
structure Reading where
  arguments : Arguments
  given : List Setting
  pending : Option Pending
  deriving Repr, DecidableEq

namespace Reading

/-- Nothing has been read. -/
def start : Reading where
  arguments :=
    Arguments.standard ""
  given :=
    []
  pending :=
    none

/-- Take a setting with its value. -/
def take
    (reading : Reading)
    (setting : Setting) :
    Option String → Except UsageError Reading
  | none => .error (.noValue setting)
  | some value =>
      if setting ∈ reading.given ∧ ¬ setting.mayRepeat then
        .error (.settingRepeated setting)
      else
        (setting.accept reading.arguments value).map fun arguments =>
          { reading with arguments, given := setting :: reading.given }

/-- Judge the pending value. -/
def settle (reading : Reading) : Except UsageError Reading :=
  match reading.pending with
  | none => .ok reading
  | some pending => { reading with pending := none }.take pending.setting pending.value

/-- Let a setting wait for its value. -/
def await
    (reading : Reading)
    (setting : Setting)
    (value : Option String) :
    Reading :=
  { reading with pending := some ⟨setting, value⟩ }

/-- Whether a program was named. -/
def hasProgram (reading : Reading) : Bool :=
  .program ∈ reading.given || reading.pending.any (·.setting = .program)

/-- Read an argument that names the program. -/
def readProgram
    (reading : Reading)
    (text : String) :
    Except UsageError Reading :=
  if reading.hasProgram then
    .error (.unknown text)
  else
    reading.settle.map fun reading => reading.await .program (some text)

/-- Raise a flag that is not raised yet. -/
def raise
    (reading : Reading)
    (flag : Flag) :
    Except UsageError Reading :=
  if flag.isRaised reading.arguments then
    .error (.flagRepeated flag)
  else
    .ok { reading with arguments := flag.raise reading.arguments }

/-- Read a setting by its name. -/
def readSetting
    (reading : Reading)
    (setting : Setting) :
    Option String → Except UsageError Reading
  | none => reading.settle.map fun reading => reading.await setting none
  | some value => reading.settle.bind fun reading => reading.take setting (some value)

/-- Read a flag by its name. -/
def readFlag
    (reading : Reading)
    (flag : Flag)
    (text : String) :
    Option String → Except UsageError Reading
  | none => reading.settle.bind fun reading => reading.raise flag
  | some _ => .error (.valueUnwanted text)

/-- Read the wish for help, which comes after a bad value before it. -/
def readHelp (reading : Reading) : Except UsageError Reading :=
  reading.settle.bind fun _ => .error .helpWanted

/-- Read an argument that starts with two dashes. -/
def readNamed
    (reading : Reading)
    (text name : String)
    (value : Option String) :
    Except UsageError Reading :=
  match Setting.ofName? name, Flag.ofName? name with
  | some setting, _ => reading.readSetting setting value
  | none, some flag => reading.readFlag flag text value
  | none, none =>
      if name = "help" then
        if value.isSome then
          .error (.valueUnwanted text)
        else
          reading.readHelp
      else
        .error (.unknown text)

/-- Read an argument without dashes: the value of a setting that waits, or the program. -/
def readPlain
    (reading : Reading)
    (text : String) :
    Except UsageError Reading :=
  match reading.pending with
  | some ⟨setting, none⟩ => .ok (reading.await setting (some text))
  | _ => reading.readProgram text

/-- Read one argument. -/
def readArgument
    (reading : Reading)
    (text : String) :
    Except UsageError Reading :=
  match Token.ofText text with
  | .named name value => reading.readNamed text name value
  | .lettered letter =>
      if letter = 'h' then
        reading.readHelp
      else
        .error (.unknown text)
  | .plain => reading.readPlain text

/-- Read all arguments; behind two dashes alone no argument has a form. -/
def readAll
    (reading : Reading) :
    List String → Except UsageError Reading
  | [] => reading.settle
  | text :: rest =>
      if text = "--" then
        (rest.foldlM readProgram reading).bind settle
      else
        (reading.readArgument text).bind fun reading => reading.readAll rest

end Reading

/-- Read the arguments of a command line. -/
def Arguments.parse (texts : List String) : Except UsageError Arguments :=
  (Reading.start.readAll texts).bind fun reading =>
    if .program ∈ reading.given then
      .ok reading.arguments
    else
      .error .noProgram

end Chip8.CommandLine
