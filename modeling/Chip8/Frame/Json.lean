import Chip8.Frame
import Chip8.Json.Record
import Chip8.Json.Writer

namespace Chip8.Frame

/-!
# Frames as JSON

A frame is read from an object or a list and needs all three fields; the number
of pixels need not fit its size.  It is written without white space.
-/

/-- The fields that a text has given so far. -/
structure Given where
  width : Option UInt32
  height : Option UInt32
  pixels : Option (List UInt32)
  deriving Repr, DecidableEq

namespace Given

/-- No fields at all. -/
def nothing : Given where
  width :=
    none
  height :=
    none
  pixels :=
    none

/-- The frame with the given fields, or the first field that is missing. -/
def finish : Given → Except String Frame
  | ⟨none, _, _⟩ => .error "width"
  | ⟨_, none, _⟩ => .error "height"
  | ⟨_, _, none⟩ => .error "pixels"
  | ⟨some width, some height, some pixels⟩ => .ok ⟨width, height, pixels⟩

end Given

/-- The fields of a frame in the order of a list. -/
def fields : List (Json.Field Given) :=
  [ .ofOption "width" Given.width
      (fun given value => { given with width := some value })
      .word
  , .ofOption "height" Given.height
      (fun given value => { given with height := some value })
      .word
  , .ofOption "pixels" Given.pixels
      (fun given value => { given with pixels := some value })
      (.list .word) ]

/-- How a frame is read. -/
def shape : Json.Shape Given Frame where
  title :=
    "struct Frame"
  start :=
    Given.nothing
  fields :=
    fields
  finish :=
    Given.finish

/-- Read a frame. -/
def parse (text : String) : Except Json.Error Frame :=
  shape.reader.parse text

/-- A frame as text. -/
def text (frame : Frame) : String :=
  String.ofList (Json.compactObject
    [ ("width", Json.natural frame.width.toNat)
    , ("height", Json.natural frame.height.toNat)
    , ("pixels", Json.compactList (frame.pixels.map fun pixel => Json.natural pixel.toNat)) ])

end Chip8.Frame
