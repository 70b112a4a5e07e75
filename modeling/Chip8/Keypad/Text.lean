import Chip8.Keypad
import Chip8.Text

namespace Chip8

/-!
# Key texts

A key is written as a hexadecimal numeral with any number of leading zeros and
at most one plus sign in front; white space around it does not count.
-/

/-- A text that names no key. -/
structure KeyError where
  text : String
  deriving Repr, DecidableEq

namespace KeyError

/-- The text that describes the mistake. -/
def message (error : KeyError) : String :=
  "invalid key '" ++ error.text ++ "': expected a hex digit 0-F"

end KeyError

namespace Hex

/-- The value of a numeral of at least one digit, continuing from the digits before it. -/
def valueFrom?
    (value : Nat) :
    List Char → Option Nat
  | [] => some value
  | c :: rest =>
      match digitValue? c with
      | some digit => valueFrom? (value * 16 + digit) rest
      | none => none

/-- The value of a hexadecimal numeral of at least one digit. -/
def value? : List Char → Option Nat
  | [] => none
  | c :: rest => valueFrom? 0 (c :: rest)

end Hex

namespace Keypad

/-- A numeral without the plus sign that may stand before it. -/
def withoutPlus : List Char → List Char
  | '+' :: rest => rest
  | text => text

/-- The key that a text names. -/
def parseKey (text : String) : Except KeyError UInt8 :=
  match Hex.value? (withoutPlus (Text.trimmed text.toList)) with
  | some key =>
      if key < keyCount then
        .ok (UInt8.ofNat key)
      else
        .error ⟨text⟩
  | none =>
      .error ⟨text⟩

end Keypad

end Chip8
