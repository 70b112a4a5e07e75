import Chip8.Frame
import Chip8.Log.Event

namespace Chip8

/-!
# The screen

The screen has 32 rows of 64 pixels, numbered in reading order.  A pixel is a
full 32-bit word, all zeros when dark and all ones when lit.  Drawing a sprite
flips pixels: the start position wraps around the screen, a pixel that runs
past the right edge lands on the next row, and a pixel past the last row is
dropped.
-/

/-- The number of pixels in a row. -/
def screenWidth : Nat := 64

/-- The number of rows. -/
def screenHeight : Nat := 32

/-- The number of pixels. -/
def pixelCount : Nat := screenWidth * screenHeight

/-- The value of a dark pixel. -/
def dark : UInt32 := 0

/-- The value of a lit pixel. -/
def lit : UInt32 := 0xFFFFFFFF

/-- The pixels in reading order. -/
structure Screen where
  pixels : Vector UInt32 pixelCount
  deriving DecidableEq

namespace Sprite

/-- The columns, from the left, in which a row of eight bits is set. -/
def columns (bits : UInt8) : List Nat :=
  (List.range 8).filter fun column => bits.toNat.testBit (7 - column)

/-- The number of the pixel where a sprite drawn at `(x, y)` starts. -/
def origin
    (x y : UInt8) :
    Nat :=
  y.toNat % screenHeight * screenWidth + x.toNat % screenWidth

/-- The pixel numbers, also those past the end, that a sprite flips, in drawing order. -/
def offsets
    (x y : UInt8)
    (rows : List UInt8) :
    List Nat :=
  rows.zipIdx.flatMap fun (bits, row) =>
    (columns bits).map fun column => origin x y + row * screenWidth + column

end Sprite

/-- A screen after a drawing, whether a lit pixel went dark, and what is announced. -/
structure Drawing where
  screen : Screen
  collision : Bool
  events : List Event

namespace Screen

/-- The screen on which every pixel is dark. -/
def blank : Screen where
  pixels :=
    Vector.replicate pixelCount dark

/-- The pixel in column `x` of row `y`, if the screen has one. -/
def pixel?
    (screen : Screen)
    (x y : Nat) :
    Option UInt32 :=
  if x < screenWidth ∧ y < screenHeight then
    screen.pixels[y * screenWidth + x]?
  else
    none

/-- Whether there is a pixel in column `x` of row `y` that is not dark. -/
def isOn
    (screen : Screen)
    (x y : Nat) :
    Bool :=
  match screen.pixel? x y with
  | some value => value != dark
  | none => false

/-- Overwrite a pixel by its number; a number past the end does nothing. -/
def set
    (screen : Screen)
    (offset : Nat)
    (value : UInt32) :
    Screen where
  pixels :=
    screen.pixels.setIfInBounds offset value

/-- Whether the pixel of a number is fully lit. -/
def isLit
    (screen : Screen)
    (offset : Nat) :
    Bool :=
  screen.pixels[offset]? == some lit

/-- Flip all bits of a pixel; a number past the end does nothing. -/
def flip
    (screen : Screen)
    (offset : Nat) :
    Screen :=
  if inside : offset < pixelCount then
    ⟨screen.pixels.set offset (screen.pixels[offset] ^^^ lit) inside⟩
  else
    screen

/-- Flip pixels one after the other, noting whether one was fully lit just before. -/
def flipAll
    (screen : Screen)
    (offsets : List Nat) :
    Screen × Bool :=
  offsets.foldl
    (fun (current, collision) offset =>
      let hit := current.isLit offset
      (current.flip offset, collision || hit))
    (screen, false)

/-- Draw a sprite, one byte a row with the leftmost pixel in the highest bit. -/
def draw
    (screen : Screen)
    (x y : UInt8)
    (rows : List UInt8) :
    Drawing :=
  let offsets := Sprite.offsets x y rows
  let (after, collision) := screen.flipAll offsets
  let clipped := (offsets.filter fun offset => decide (pixelCount ≤ offset)).map Event.clipped
  { screen := after
    collision
    events :=
      if collision then
        clipped ++ [.collision (x.toNat % screenWidth) (y.toNat % screenHeight)]
      else
        clipped }

/-- The picture on the screen. -/
def toFrame (screen : Screen) : Frame where
  width :=
    UInt32.ofNat screenWidth
  height :=
    UInt32.ofNat screenHeight
  pixels :=
    screen.pixels.toList

end Screen

end Chip8
