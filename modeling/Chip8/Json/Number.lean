import Chip8.Json.Problem

namespace Chip8.Json

/-!
# Numbers

A number that is kept is an integer when it has neither fraction nor exponent
and fits sixty-four bits; every other number is a binary floating-point number.
Its digits are gathered into a 64-bit significand as long as they fit; later
digits only move the decimal point.  A number that is passed over has to be
well formed and may be of any size.
-/

/-- A number that was read. -/
inductive Number where
  | natural (value : Nat)
  /-- The number below zero of a magnitude. -/
  | negative (magnitude : Nat)
  | decimal (value : Float)

/-- The largest significand. -/
def maxSignificand : Nat := UInt64.size - 1

/-- The largest magnitude of an integer below zero. -/
def maxMagnitude : Nat := 0x8000000000000000

/-- The largest exponent whose digits are read. -/
def maxExponent : Nat := 0x7FFFFFFF

/-- The largest power of ten that scales a significand in one step. -/
def maxPower : Nat := 308

/-- The value of a decimal digit. -/
def digitValue (c : Char) : Nat :=
  c.toNat - '0'.toNat

/-- A number gathered from digits, how many digits that were, and the text behind them. -/
structure Gathered where
  value : Nat
  count : Nat
  rest : List Char
  deriving Repr, DecidableEq

/-- Append digits to a number as long as it stays within a limit. -/
def takeDigits
    (limit value count : Nat) :
    List Char → Gathered
  | [] => ⟨value, count, []⟩
  | c :: rest =>
      if c.isDigit ∧ value * 10 + digitValue c ≤ limit then
        takeDigits limit (value * 10 + digitValue c) (count + 1) rest
      else
        ⟨value, count, c :: rest⟩

/-- The text behind its leading digits. -/
def skipDigits (text : List Char) : List Char :=
  text.dropWhile Char.isDigit

/-- Whether a text starts with a digit. -/
def startsWithDigit : List Char → Bool
  | c :: _ => c.isDigit
  | [] => false

/-- Whether a character introduces an exponent. -/
def isExponentMark (c : Char) : Bool :=
  c == 'e' || c == 'E'

/-- A power of ten. -/
def powerOfTen (exponent : Nat) : Float :=
  Float.ofScientific 1 false exponent

/-- Scale a number by a power of ten; nothing when it grows beyond all numbers. -/
def scale?
    (value : Float)
    (exponent : Int) :
    Option Float :=
  if exponent.natAbs ≤ maxPower then
    if 0 ≤ exponent then
      let scaled := value * powerOfTen exponent.natAbs
      if scaled.isInf then none else some scaled
    else
      some (value / powerOfTen exponent.natAbs)
  else if value == 0 then
    some value
  else if 0 ≤ exponent then
    none
  else
    scale? (value / powerOfTen maxPower) (exponent + maxPower)
  termination_by exponent.natAbs
  decreasing_by
    simp only [maxPower] at *
    omega

/-- Give a magnitude its sign. -/
def signed
    (positive : Bool)
    (magnitude : Float) :
    Number :=
  .decimal (if positive then magnitude else -magnitude)

/-- The number of a significand and an exponent, read before the rest of the text. -/
def ofParts
    (positive : Bool)
    (significand : Nat)
    (exponent : Int)
    (rest : List Char) :
    Except Problem (Number × List Char) :=
  match scale? (UInt64.ofNat significand).toFloat exponent with
  | some magnitude => .ok (signed positive magnitude, rest)
  | none => .error (.before .numberOutOfRange rest)

/-- A number whose exponent has more digits than are read. -/
def ofHugeExponent
    (positive : Bool)
    (significand : Nat)
    (exponentNegative : Bool)
    (rest : List Char) :
    Except Problem (Number × List Char) :=
  if significand ≠ 0 ∧ !exponentNegative then
    .error (.before .numberOutOfRange (rest.drop 1))
  else
    .ok (signed positive 0, skipDigits rest)

/-- Whether an exponent is negative. -/
def exponentNegative : List Char → Bool
  | '-' :: _ => true
  | _ => false

/-- The text behind the sign that an exponent may have. -/
def skipSign : List Char → List Char
  | '+' :: rest => rest
  | '-' :: rest => rest
  | text => text

/-- The number whose exponent follows. -/
def readExponent
    (positive : Bool)
    (significand : Nat)
    (exponent : Int)
    (text : List Char) :
    Except Problem (Number × List Char) :=
  if startsWithDigit (skipSign text) then
    let digits := takeDigits maxExponent 0 0 (skipSign text)
    if startsWithDigit digits.rest then
      ofHugeExponent positive significand (exponentNegative text) digits.rest
    else if exponentNegative text then
      ofParts positive significand (exponent - digits.value) digits.rest
    else
      ofParts positive significand (exponent + digits.value) digits.rest
  else if (skipSign text).isEmpty then
    .error (.before .missingValue [])
  else
    .error (.within .invalidNumber (skipSign text))

/-- The number whose mantissa is complete. -/
def readAfterMantissa
    (positive : Bool)
    (significand : Nat)
    (exponent : Int) :
    List Char → Except Problem (Number × List Char)
  | c :: rest =>
      if isExponentMark c then
        readExponent positive significand exponent rest
      else
        ofParts positive significand exponent (c :: rest)
  | [] => ofParts positive significand exponent []

/-- The number whose fraction follows. -/
def readFraction
    (positive : Bool)
    (significand : Nat)
    (exponent : Int)
    (text : List Char) :
    Except Problem (Number × List Char) :=
  if startsWithDigit text then
    let digits := takeDigits maxSignificand significand 0 text
    readAfterMantissa positive digits.value (exponent - digits.count) (skipDigits digits.rest)
  else if text.isEmpty then
    .error (.before .missingValue [])
  else
    .error (.within .invalidNumber text)

/-- The integer of a significand, or a floating-point number where no integer fits. -/
def ofSignificand
    (positive : Bool)
    (significand : Nat) :
    Number :=
  if positive then
    .natural significand
  else if significand ≠ 0 ∧ significand ≤ maxMagnitude then
    .negative significand
  else
    signed false (UInt64.ofNat significand).toFloat

/-- The number whose integer part is complete and fits a significand. -/
def readAfterInteger
    (positive : Bool)
    (significand : Nat) :
    List Char → Except Problem (Number × List Char)
  | [] => .ok (ofSignificand positive significand, [])
  | c :: rest =>
      if c = '.' then
        readFraction positive significand 0 rest
      else if isExponentMark c then
        readExponent positive significand 0 rest
      else
        .ok (ofSignificand positive significand, c :: rest)

/-- The number whose integer part has more digits than fit a significand. -/
def readAfterLongInteger
    (positive : Bool)
    (significand dropped : Nat) :
    List Char → Except Problem (Number × List Char)
  | [] => ofParts positive significand dropped []
  | c :: rest =>
      if c = '.' then
        readFraction positive significand dropped rest
      else
        readAfterMantissa positive significand dropped (c :: rest)

/-- Read a number behind its sign. -/
def readNumber
    (positive : Bool) :
    List Char → Except Problem (Number × List Char)
  | [] => .error (.before .missingValue [])
  | c :: rest =>
      if c = '0' then
        if startsWithDigit rest then
          .error (.within .invalidNumber rest)
        else
          readAfterInteger positive 0 rest
      else if c.isDigit then
        let digits := takeDigits maxSignificand (digitValue c) 0 rest
        if startsWithDigit digits.rest then
          let behind := skipDigits digits.rest
          readAfterLongInteger positive digits.value (digits.rest.length - behind.length) behind
        else
          readAfterInteger positive digits.value digits.rest
      else
        .error (.within .invalidNumber (c :: rest))

/-- Pass over the exponent of a number. -/
def skipExponent (text : List Char) : Except Problem (List Char) :=
  if startsWithDigit (skipSign text) then
    .ok (skipDigits (skipSign text))
  else
    .error (.within .invalidNumber (skipSign text))

/-- Pass over what may follow the mantissa of a number. -/
def skipAfterMantissa : List Char → Except Problem (List Char)
  | [] => .ok []
  | c :: rest =>
      if isExponentMark c then
        skipExponent rest
      else
        .ok (c :: rest)

/-- Pass over the fraction of a number. -/
def skipFraction (text : List Char) : Except Problem (List Char) :=
  if startsWithDigit text then
    skipAfterMantissa (skipDigits text)
  else
    .error (.within .invalidNumber text)

/-- Pass over what may follow the integer part of a number. -/
def skipAfterInteger : List Char → Except Problem (List Char)
  | [] => .ok []
  | c :: rest =>
      if c = '.' then
        skipFraction rest
      else
        skipAfterMantissa (c :: rest)

/-- Pass over a number behind its sign. -/
def skipNumber : List Char → Except Problem (List Char)
  | [] => .error (.before .invalidNumber [])
  | c :: rest =>
      if c = '0' then
        if startsWithDigit rest then
          .error (.within .invalidNumber rest)
        else
          skipAfterInteger rest
      else if c.isDigit then
        skipAfterInteger (skipDigits rest)
      else
        .error (.within .invalidNumber (c :: rest))

/-- Gathering digits leaves no more text than there was. -/
theorem takeDigits_length_le
    (limit value count : Nat)
    (text : List Char) :
    (takeDigits limit value count text).rest.length ≤ text.length := by
  fun_induction takeDigits limit value count text with
  | case1 => simp
  | case2 value count c rest fits inductionHypothesis =>
      simp only [List.length_cons]
      omega
  | case3 => simp

/-- What stands behind the leading digits is no longer than the whole. -/
theorem skipDigits_length_le (text : List Char) :
    (skipDigits text).length ≤ text.length :=
  (List.dropWhile_sublist _).length_le

/-- What stands behind a sign is no longer than the whole. -/
theorem skipSign_length_le (text : List Char) :
    (skipSign text).length ≤ text.length := by
  unfold skipSign
  split <;> simp

/-- Scaling a significand reads nothing. -/
theorem ofParts_length_le
    {positive : Bool}
    {significand : Nat}
    {exponent : Int}
    {text rest : List Char}
    {value : Number}
    (read : ofParts positive significand exponent text = .ok (value, rest)) :
    rest.length ≤ text.length := by
  unfold ofParts at read
  split at read
  · cases read
    exact Nat.le_refl _
  · cases read

/-- An exponent that is too long to be read is passed over, and no text is added. -/
theorem ofHugeExponent_length_le
    {positive : Bool}
    {significand : Nat}
    {negative : Bool}
    {text rest : List Char}
    {value : Number}
    (read : ofHugeExponent positive significand negative text = .ok (value, rest)) :
    rest.length ≤ text.length := by
  unfold ofHugeExponent at read
  split at read
  · cases read
  · cases read
    exact skipDigits_length_le text

/-- Reading an exponent leaves no more text than there was. -/
theorem readExponent_length_le
    {positive : Bool}
    {significand : Nat}
    {exponent : Int}
    {text rest : List Char}
    {value : Number}
    (read : readExponent positive significand exponent text = .ok (value, rest)) :
    rest.length ≤ text.length := by
  have sign := skipSign_length_le text
  have digits := takeDigits_length_le maxExponent 0 0 (skipSign text)
  unfold readExponent at read
  split at read
  · dsimp only at read
    split at read
    · have parts := ofHugeExponent_length_le read
      omega
    · split at read
      · have parts := ofParts_length_le read
        omega
      · have parts := ofParts_length_le read
        omega
  · split at read <;> cases read

/-- Behind the digits of a fraction stands an exponent or nothing that is read. -/
theorem readAfterMantissa_length_le
    {positive : Bool}
    {significand : Nat}
    {exponent : Int}
    {text rest : List Char}
    {value : Number}
    (read : readAfterMantissa positive significand exponent text = .ok (value, rest)) :
    rest.length ≤ text.length := by
  unfold readAfterMantissa at read
  split at read
  · split at read
    · have shorter := readExponent_length_le read
      simp only [List.length_cons]
      omega
    · exact ofParts_length_le read
  · exact ofParts_length_le read

/-- Reading a fraction leaves no more text than there was. -/
theorem readFraction_length_le
    {positive : Bool}
    {significand : Nat}
    {exponent : Int}
    {text rest : List Char}
    {value : Number}
    (read : readFraction positive significand exponent text = .ok (value, rest)) :
    rest.length ≤ text.length := by
  have digits := takeDigits_length_le maxSignificand significand 0 text
  have behind := skipDigits_length_le (takeDigits maxSignificand significand 0 text).rest
  unfold readFraction at read
  split at read
  · have shorter := readAfterMantissa_length_le read
    omega
  · split at read <;> cases read

/-- Behind an integer that fits stands a fraction, an exponent or nothing that is read. -/
theorem readAfterInteger_length_le
    {positive : Bool}
    {significand : Nat}
    {text rest : List Char}
    {value : Number}
    (read : readAfterInteger positive significand text = .ok (value, rest)) :
    rest.length ≤ text.length := by
  unfold readAfterInteger at read
  split at read
  · cases read
    exact Nat.le_refl _
  · split at read
    · have shorter := readFraction_length_le read
      simp only [List.length_cons]
      omega
    · split at read
      · have shorter := readExponent_length_le read
        simp only [List.length_cons]
        omega
      · cases read
        exact Nat.le_refl _

/-- Behind an integer that does not fit the rest is read like that of one that does. -/
theorem readAfterLongInteger_length_le
    {positive : Bool}
    {significand dropped : Nat}
    {text rest : List Char}
    {value : Number}
    (read : readAfterLongInteger positive significand dropped text = .ok (value, rest)) :
    rest.length ≤ text.length := by
  unfold readAfterLongInteger at read
  split at read
  · exact ofParts_length_le read
  · split at read
    · have shorter := readFraction_length_le read
      simp only [List.length_cons]
      omega
    · exact readAfterMantissa_length_le read

/-- A number has a digit at least, so reading one makes the text shorter. -/
theorem readNumber_consumes
    {positive : Bool}
    {text rest : List Char}
    {value : Number}
    (read : readNumber positive text = .ok (value, rest)) :
    rest.length < text.length := by
  unfold readNumber at read
  split at read
  · cases read
  · rename_i c digits
    simp only [List.length_cons]
    split at read
    · split at read
      · cases read
      · have shorter := readAfterInteger_length_le read
        omega
    · split at read
      · have taken := takeDigits_length_le maxSignificand (digitValue c) 0 digits
        have behind :=
          skipDigits_length_le (takeDigits maxSignificand (digitValue c) 0 digits).rest
        dsimp only at read
        split at read
        · have shorter := readAfterLongInteger_length_le read
          omega
        · have shorter := readAfterInteger_length_le read
          omega
      · cases read

/-- Passing over an exponent leaves no more text than there was. -/
theorem skipExponent_length_le
    {text rest : List Char}
    (read : skipExponent text = .ok rest) :
    rest.length ≤ text.length := by
  have sign := skipSign_length_le text
  have behind := skipDigits_length_le (skipSign text)
  unfold skipExponent at read
  split at read
  · cases read
    omega
  · cases read

/-- Passing over what follows a fraction leaves no more text than there was. -/
theorem skipAfterMantissa_length_le
    {text rest : List Char}
    (read : skipAfterMantissa text = .ok rest) :
    rest.length ≤ text.length := by
  unfold skipAfterMantissa at read
  split at read
  · cases read
    exact Nat.le_refl _
  · split at read
    · have shorter := skipExponent_length_le read
      simp only [List.length_cons]
      omega
    · cases read
      exact Nat.le_refl _

/-- Passing over what follows an integer leaves no more text than there was. -/
theorem skipAfterInteger_length_le
    {text rest : List Char}
    (read : skipAfterInteger text = .ok rest) :
    rest.length ≤ text.length := by
  unfold skipAfterInteger skipFraction at read
  split at read
  · cases read
    exact Nat.le_refl _
  · rename_i c fraction
    split at read
    · split at read
      · have behind := skipDigits_length_le fraction
        have shorter := skipAfterMantissa_length_le read
        simp only [List.length_cons]
        omega
      · cases read
    · exact skipAfterMantissa_length_le read

/-- A number has a digit at least, so passing over one makes the text shorter. -/
theorem skipNumber_consumes
    {text rest : List Char}
    (read : skipNumber text = .ok rest) :
    rest.length < text.length := by
  unfold skipNumber at read
  split at read
  · cases read
  · rename_i c digits
    simp only [List.length_cons]
    split at read
    · split at read
      · cases read
      · have shorter := skipAfterInteger_length_le read
        omega
    · split at read
      · have behind := skipDigits_length_le digits
        have shorter := skipAfterInteger_length_le read
        omega
      · cases read

end Chip8.Json
