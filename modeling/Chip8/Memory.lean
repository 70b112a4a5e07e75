import Chip8.Fault

namespace Chip8

/-!
# Memory

The address space has 4096 bytes: the glyphs of the sixteen hexadecimal digits
lie at `0x050` and programs from `0x200` to the end.  Every access names the
first address that lies outside memory when it fails, and a block is written
whole or not at all.
-/

/-- The number of addressable bytes. -/
def memorySize : Nat := 4096

/-- Where programs are loaded and where execution starts. -/
def programStart : Nat := 0x200

/-- The length of the longest program. -/
def programCapacity : Nat := memorySize - programStart

/-- Where the glyphs lie. -/
def glyphStart : Nat := 0x050

/-- The number of bytes, one a row, in a glyph. -/
def glyphSize : Nat := 5

/-- The rows of the glyphs `0` to `F`, five bytes each. -/
def glyphs : List UInt8 :=
  [ 0xF0, 0x90, 0x90, 0x90, 0xF0
  , 0x20, 0x60, 0x20, 0x20, 0x70
  , 0xF0, 0x10, 0xF0, 0x80, 0xF0
  , 0xF0, 0x10, 0xF0, 0x10, 0xF0
  , 0x90, 0x90, 0xF0, 0x10, 0x10
  , 0xF0, 0x80, 0xF0, 0x10, 0xF0
  , 0xF0, 0x80, 0xF0, 0x90, 0xF0
  , 0xF0, 0x10, 0x20, 0x40, 0x40
  , 0xF0, 0x90, 0xF0, 0x90, 0xF0
  , 0xF0, 0x90, 0xF0, 0x10, 0xF0
  , 0xF0, 0x90, 0xF0, 0x90, 0x90
  , 0xE0, 0x90, 0xE0, 0x90, 0xE0
  , 0xF0, 0x80, 0x80, 0x80, 0xF0
  , 0xE0, 0x90, 0x90, 0x90, 0xE0
  , 0xF0, 0x80, 0xF0, 0x80, 0xF0
  , 0xF0, 0x80, 0xF0, 0x80, 0x80 ]

/-- Row `row` of the glyph of `digit`, both taken modulo their ranges. -/
def glyphRow
    (digit : UInt8)
    (row : UInt8) :
    UInt8 :=
  glyphs.getD (digit.toNat % 16 * glyphSize + row.toNat % glyphSize) 0

/-- Why a program image is rejected. -/
inductive LoadError where
  | empty
  | tooLarge (size : Nat)
  deriving Repr, DecidableEq

namespace LoadError

/-- The text that describes a rejected image. -/
def message : LoadError → String
  | .empty =>
      "Empty program"
  | .tooLarge size =>
      s!"Program too large: {size} bytes (capacity {programCapacity})"

end LoadError

/-- The bytes of the address space. -/
structure Memory where
  bytes : Vector UInt8 memorySize
  deriving DecidableEq

namespace Memory

/-- Memory that holds zeros only. -/
def blank : Memory where
  bytes :=
    Vector.replicate memorySize 0

/-- Write consecutive bytes from `address` on, dropping those past the end. -/
def fill
    (memory : Memory)
    (address : Nat) :
    List UInt8 → Memory
  | [] => memory
  | byte :: rest =>
      fill ⟨memory.bytes.setIfInBounds address byte⟩ (address + 1) rest

/-- The first address of a block that lies outside memory, if there is one. -/
def firstOutside?
    (address : Nat)
    (length : Nat) :
    Option Nat :=
  if length = 0 ∨ address + length ≤ memorySize then
    none
  else
    some (max address memorySize)

/-- Refuse a block that does not lie inside memory; an empty block passes anywhere. -/
def checkRange
    (address : Nat)
    (length : Nat) :
    Except Stop Unit :=
  match firstOutside? address length with
  | some outside => .error (.fault (.memoryOutOfRange outside))
  | none => .ok ()

/-- The byte at an address. -/
def read
    (memory : Memory)
    (address : Nat) :
    Except Stop UInt8 :=
  match memory.bytes[address]? with
  | some byte => .ok byte
  | none => .error (.fault (.memoryOutOfRange address))

/-- Replace the byte at an address. -/
def write
    (memory : Memory)
    (address : Nat)
    (byte : UInt8) :
    Except Stop Memory :=
  if inside : address < memorySize then
    .ok ⟨memory.bytes.set address byte inside⟩
  else
    .error (.fault (.memoryOutOfRange address))

/-- The bytes of a block in order; an empty block above the end is a crash. -/
def slice
    (memory : Memory)
    (address : Nat)
    (length : Nat) :
    Except Stop (List UInt8) := do
  checkRange address length
  if memorySize < address then
    .error .crash
  else
    .ok (memory.bytes.toArray.extract address (address + length)).toList

/-- Write a block whole or not at all; an empty block above the end is a crash. -/
def writeSlice
    (memory : Memory)
    (address : Nat)
    (data : List UInt8) :
    Except Stop Memory := do
  checkRange address data.length
  if memorySize < address then
    .error .crash
  else
    .ok (memory.fill address data)

/-- The word of two bytes, the first one most significant. -/
def wordOfBytes
    (high : UInt8)
    (low : UInt8) :
    UInt16 :=
  high.toUInt16 <<< 8 ||| low.toUInt16

/-- The word at an address, most significant byte first. -/
def readWord
    (memory : Memory)
    (address : Nat) :
    Except Stop UInt16 := do
  match ← memory.slice address 2 with
  | [high, low] => .ok (wordOfBytes high low)
  | _ => .error .crash

/-- Write the glyphs at their place. -/
def loadGlyphs (memory : Memory) : Memory :=
  memory.fill glyphStart glyphs

/-- The memory of a machine at power-on: glyphs and nothing else. -/
def powerOn : Memory :=
  blank.loadGlyphs

/-- Whether an image has a length that can be loaded. -/
def checkProgram (program : List UInt8) : Except LoadError Unit :=
  if program.isEmpty then
    .error .empty
  else if programCapacity < program.length then
    .error (.tooLarge program.length)
  else
    .ok ()

/-- Copy an image to the program region; a rejected image writes nothing. -/
def loadProgram
    (memory : Memory)
    (program : List UInt8) :
    Except LoadError Memory := do
  checkProgram program
  .ok (memory.fill programStart program)

/-- Zero the program region. -/
def clearProgram (memory : Memory) : Memory :=
  memory.fill programStart (List.replicate programCapacity 0)

end Memory

end Chip8
