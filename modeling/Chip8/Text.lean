import Chip8.Text.Hidden

namespace Chip8

/-!
# Texts

How texts are cut, spelled and kept: the white space at their ends, the numerals
of addresses and words, the form in which a text is quoted, and the bytes that a
file holds of it.  Main statement: the bytes of a text read back as the same
text.
-/

/-!
## Hexadecimal numerals

Addresses, words and bytes are written in base sixteen with upper-case digits,
filled on the left with zeros up to a least width.
-/

namespace Hex

/-- The upper-case hexadecimal digits of a number, most significant first. -/
def digits (n : Nat) : List Char :=
  (Nat.toDigits 16 n).map Char.toUpper

/-- The hexadecimal numeral of a number with at least `width` digits. -/
def numeral
    (width : Nat)
    (n : Nat) :
    String :=
  String.ofList ((digits n).leftpad width '0')

/-- The value of one hexadecimal digit of either case. -/
def digitValue? (c : Char) : Option Nat :=
  if '0' ≤ c ∧ c ≤ '9' then
    some (c.toNat - '0'.toNat)
  else if 'a' ≤ c ∧ c ≤ 'f' then
    some (c.toNat - 'a'.toNat + 10)
  else if 'A' ≤ c ∧ c ≤ 'F' then
    some (c.toNat - 'A'.toNat + 10)
  else
    none

end Hex

namespace Text

/-!
## White space

The characters with the Unicode property `White_Space`, and texts without them
at either end.
-/

/-- Whether a character has the property `White_Space`. -/
def isBlank (c : Char) : Bool :=
  let n := c.toNat
  (9 ≤ n && n ≤ 13) || n == 0x20 || n == 0x85 || n == 0xA0 || n == 0x1680 ||
    (0x2000 ≤ n && n ≤ 0x200A) || n == 0x2028 || n == 0x2029 || n == 0x202F ||
    n == 0x205F || n == 0x3000

/-- The characters of a text without the white space at its ends. -/
def trimmed (text : List Char) : List Char :=
  ((text.dropWhile isBlank).reverse.dropWhile isBlank).reverse

/-!
## Quoted text

A text between double quotes in which quotes, backslashes, line ends and
characters that are not shown are spelled out.
-/

/-- The spelling of a character by its code point. -/
def codePoint (c : Char) : List Char :=
  ['\\', 'u', '\x7b'] ++ Nat.toDigits 16 c.toNat ++ ['\x7d']

/-- Whether a character is an ASCII control character. -/
def isControl (c : Char) : Bool :=
  decide (c.toNat < 0x20)

/-- The spelling of a character between quotes. -/
def quotedChar (c : Char) : List Char :=
  match c with
  | '\x00' => ['\\', '0']
  | '\t' => ['\\', 't']
  | '\n' => ['\\', 'n']
  | '\r' => ['\\', 'r']
  | '"' => ['\\', '"']
  | '\\' => ['\\', '\\']
  | c => if isControl c || isHidden c then codePoint c else [c]

/-- A text between quotes. -/
def quoted (text : String) : String :=
  String.ofList ('"' :: (text.toList.flatMap quotedChar ++ ['"']))

/-!
## Texts as bytes

A text is kept in a file as the UTF-8 encoding of its characters.
-/

/-- The bytes of a text. -/
def bytes (text : String) : List UInt8 :=
  text.toList.flatMap String.utf8EncodeChar

/-- The text that bytes encode, if they encode one. -/
def ofBytes? (bytes : List UInt8) : Option String :=
  String.fromUTF8? ⟨bytes.toArray⟩

/-- The bytes of a text are the ones it is made of. -/
theorem mk_bytes (text : String) :
    (⟨(bytes text).toArray⟩ : ByteArray) = text.toByteArray := by
  conv =>
    rhs
    rw [← String.ofList_toList (s := text), String.toByteArray_ofList]
  rw [← List.data_toByteArray]
  rfl

/-- The bytes of a text read back as the text. -/
theorem ofBytes?_bytes (text : String) : ofBytes? (bytes text) = some text := by
  unfold ofBytes? String.fromUTF8?
  rw [mk_bytes, dif_pos text.isValidUTF8]
  rfl

end Text

end Chip8
