import Chip8.Config
import Chip8.Json.Record
import Chip8.Json.Writer

namespace Chip8

/-!
# Configurations as JSON

A configuration is read from an object in which every member may be missing, or
from a list of its fields; what is missing keeps its standard value.  It is
written with all its members, one a line.
-/

namespace Semantics

/-- The name of a semantics. -/
def name : Semantics → String
  | .referenceExact => "reference_exact"
  | .corrected => "corrected"

/-- The two semantics by their names. -/
def names : List (String × Semantics) :=
  [Semantics.referenceExact, .corrected].map fun semantics => (semantics.name, semantics)

end Semantics

namespace Config

/-- The settings that a text has given so far. -/
structure Given where
  semantics : Option Semantics
  cyclesPerFrame : Option UInt32
  timerTicksPerFrame : Option UInt32
  frameRate : Option UInt32
  seed : Option (Option UInt64)
  deriving Repr, DecidableEq

namespace Given

/-- No settings at all. -/
def nothing : Given where
  semantics :=
    none
  cyclesPerFrame :=
    none
  timerTicksPerFrame :=
    none
  frameRate :=
    none
  seed :=
    none

/-- The given settings, and the standard ones where none are given. -/
def orStandard (given : Given) : Config where
  semantics :=
    given.semantics.getD standard.semantics
  cyclesPerFrame :=
    given.cyclesPerFrame.getD standard.cyclesPerFrame
  timerTicksPerFrame :=
    given.timerTicksPerFrame.getD standard.timerTicksPerFrame
  frameRate :=
    given.frameRate.getD standard.frameRate
  seed :=
    given.seed.getD standard.seed

end Given

/-- The fields of a configuration in the order of a list. -/
def fields : List (Json.Field Given) :=
  [ .ofOption "semantics" Given.semantics
      (fun given value => { given with semantics := some value })
      (.choice Semantics.names)
  , .ofOption "cycles_per_frame" Given.cyclesPerFrame
      (fun given value => { given with cyclesPerFrame := some value })
      .word
  , .ofOption "timer_ticks_per_frame" Given.timerTicksPerFrame
      (fun given value => { given with timerTicksPerFrame := some value })
      .word
  , .ofOption "frame_rate_hz" Given.frameRate
      (fun given value => { given with frameRate := some value })
      .word
  , .ofOption "seed" Given.seed
      (fun given value => { given with seed := some value })
      (.optional .longWord) ]

/-- How a configuration is read. -/
def shape : Json.Shape Given Config where
  title :=
    "struct Chip8Config"
  start :=
    Given.nothing
  fields :=
    fields
  finish given :=
    .ok given.orStandard

/-- Read a configuration. -/
def parse (text : String) : Except Json.Error Config :=
  shape.reader.parse text

/-- The members of a written configuration. -/
def members (config : Config) : List (String × Json.Written) :=
  [ ("semantics", Json.quotedName config.semantics.name)
  , ("cycles_per_frame", Json.natural config.cyclesPerFrame.toNat)
  , ("timer_ticks_per_frame", Json.natural config.timerTicksPerFrame.toNat)
  , ("frame_rate_hz", Json.natural config.frameRate.toNat)
  , ("seed", Json.optional (fun seed => Json.natural seed.toNat) config.seed) ]

/-- A configuration as text. -/
def text (config : Config) : String :=
  String.ofList (Json.linedObject config.members)

end Config

end Chip8
