import Chip8.Fault

namespace Chip8

/-!
# The keypad

Sixteen keys, each up or down.  Programs name a key by the value of a
register, so a number above fifteen is a fault when a program asks for it and
is ignored when a host sets it.
-/

/-- The number of keys. -/
def keyCount : Nat := 16

/-- Which keys are down. -/
structure Keypad where
  down : Vector Bool keyCount
  deriving DecidableEq

namespace Keypad

/-- The keypad with every key up. -/
def released : Keypad where
  down :=
    Vector.replicate keyCount false

/-- Press or release one key; a number that is no key does nothing. -/
def set
    (keypad : Keypad)
    (key : UInt8)
    (isDown : Bool) :
    Keypad where
  down :=
    keypad.down.setIfInBounds key.toNat isDown

/-- The keypad on which exactly the given keys are down. -/
def holding (keys : List UInt8) : Keypad :=
  keys.foldl (fun keypad key => keypad.set key true) released

/-- Whether a key is down, asked by a program. -/
def isDown
    (keypad : Keypad)
    (key : UInt8) :
    Except Stop Bool :=
  match keypad.down[key.toNat]? with
  | some pressed => .ok pressed
  | none => .error (.fault (.keyOutOfRange key))

/-- The lowest key that is down. -/
def firstDown? (keypad : Keypad) : Option (Fin 16) :=
  (List.finRange 16).find? fun key => keypad.down[key.val]

/-- The keypad on which key `k` is down when bit `k` of the mask is set. -/
def ofMask (mask : Nat) : Keypad where
  down :=
    Vector.ofFn fun key => mask.testBit key.val

/-- The number whose bit `k` is set when key `k` is down. -/
def mask (keypad : Keypad) : Nat :=
  (List.finRange 16).foldl
    (fun bits key => if keypad.down[key.val] then bits + 1 <<< key.val else bits)
    0

end Keypad

end Chip8
