import Chip8.Host

namespace Chip8

/-!
# The terminal

A screen as text, one line a row, and the host of a command-line run: it holds
a fixed set of keys for a number of frames and, when live, writes every frame
over the one before it.
-/

namespace Terminal

/-- The character of a pixel. -/
def pixelChar (isOn : Bool) : Char :=
  if isOn then '█' else ' '

/-- The line of one row, with its line end. -/
def rowText
    (screen : Screen)
    (y : Nat) :
    List Char :=
  (List.range screenWidth).map (fun x => pixelChar (screen.isOn x y)) ++ ['\n']

/-- The screen as text. -/
def render (screen : Screen) : String :=
  String.ofList ((List.range screenHeight).flatMap (rowText screen))

/-- The sequence that clears the terminal. -/
def clearSequence : String := "\x1b[2J"

/-- The sequence that moves the cursor to the top left corner. -/
def homeSequence : String := "\x1b[H"

end Terminal

/-- The host of a command-line run. -/
structure TerminalHost where
  keypad : Keypad
  framesLeft : UInt32
  /-- Whether every frame is shown. -/
  live : Bool
  /-- The text that waits to be printed. -/
  pending : String
  deriving DecidableEq

namespace TerminalHost

/-- A host that holds keys down for a number of frames. -/
def holding
    (keys : List UInt8)
    (frames : UInt32)
    (live : Bool) :
    TerminalHost where
  keypad :=
    Keypad.holding keys
  framesLeft :=
    frames
  live :=
    live
  pending :=
    ""

/-- One frame fewer is left of some frames. -/
theorem framesLeft_toNat
    {host : TerminalHost}
    (left : host.framesLeft ≠ 0) :
    (host.framesLeft - 1).toNat + 1 = host.framesLeft.toNat := by
  have positive : (1 : UInt32) ≤ host.framesLeft := by
    rw [UInt32.le_iff_toNat_le]
    exact Nat.pos_of_ne_zero fun zero => left (UInt32.toNat_inj.mp zero)
  rw [UInt32.toNat_sub_of_le _ _ positive]
  exact Nat.sub_add_cancel (UInt32.le_iff_toNat_le.mp positive)

/-- The host after its text was printed. -/
def flushed (host : TerminalHost) : TerminalHost :=
  { host with pending := "" }

instance : Host TerminalHost where
  poll host :=
    if host.framesLeft = 0 then
      (none, host)
    else
      (some host.keypad, { host with framesLeft := host.framesLeft - 1 })
  present host screen :=
    if host.live then
      { host with
        pending := host.pending ++ Terminal.homeSequence ++ Terminal.render screen }
    else
      host

end TerminalHost

end Chip8
