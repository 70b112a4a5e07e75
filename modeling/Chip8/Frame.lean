namespace Chip8

/-!
# Frames

A frame is a picture taken from a screen: its size and its pixels from the top
left, row after row.  A frame that was read from a text may hold any number of
pixels.
-/

/-- A picture with its pixels in reading order. -/
structure Frame where
  width : UInt32
  height : UInt32
  pixels : List UInt32
  deriving Repr, DecidableEq

namespace Frame

/-- A frame of the given size in which every pixel is zero. -/
def blank
    (width height : UInt32) :
    Frame where
  width :=
    width
  height :=
    height
  pixels :=
    List.replicate (width.toNat * height.toNat) 0

/-- Cut a list into pieces of `size` elements; the last piece may be shorter. -/
def pieces
    {α : Type}
    (size : Nat)
    (positive : 0 < size) :
    List α → List (List α)
  | [] => []
  | first :: rest =>
      (first :: rest).take size ::
        pieces size positive ((first :: rest).drop size)
  termination_by elements => elements.length
  decreasing_by
    simp only [List.length_drop, List.length_cons]
    omega

/-- The rows of a frame from top to bottom; a frame without width has rows of one pixel. -/
def rows (frame : Frame) : List (List UInt32) :=
  pieces (max frame.width.toNat 1) (by omega) frame.pixels

end Frame

end Chip8
