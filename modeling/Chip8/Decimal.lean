namespace Chip8.Decimal

/-!
# Decimals

Decimal numerals are read as numbers, and binary floating-point numbers are
written as decimals.
-/

/-!
## Numerals

A numeral has at least one digit; a sign may stand before it.
-/

/-- The value of digits that follow others of a value. -/
def valueFrom?
    (value : Nat) :
    List Char → Option Nat
  | [] => some value
  | c :: rest =>
      if c.isDigit then
        valueFrom? (value * 10 + (c.toNat - '0'.toNat)) rest
      else
        none

/-- The value of a numeral without sign. -/
def value? : List Char → Option Nat
  | [] => none
  | c :: rest => valueFrom? 0 (c :: rest)

/-- The value of a numeral that may have a plus sign. -/
def natural? : List Char → Option Nat
  | '+' :: rest => value? rest
  | text => value? text

/-- The value of a numeral that may have either sign. -/
def integer? : List Char → Option Int
  | '-' :: rest => (value? rest).map fun value => -(value : Int)
  | text => (natural? text).map fun value => (value : Int)

/-!
## Shortest decimals

The decimal text of a binary floating-point number: the fewest digits that read
back as the same number and, among those, the ones nearest to it.  All
comparisons are exact, between natural numbers.
-/

/-- The number `mantissa · 2 ^ exponent`. -/
structure Binary where
  mantissa : Nat
  exponent : Int
  deriving Repr, DecidableEq

namespace Binary

/-- The smallest mantissa of a number that is not subnormal. -/
def leastNormal : Nat := 0x10000000000000

/-- The exponent of the subnormal numbers. -/
def leastExponent : Int := -1074

/-- The magnitude that the bits of a finite number stand for. -/
def ofBits (bits : UInt64) : Binary :=
  let biased : Nat := bits.toNat >>> 52 % 0x800
  let fraction : Nat := bits.toNat % leastNormal
  if biased = 0 then
    ⟨fraction, leastExponent⟩
  else
    ⟨fraction + leastNormal, leastExponent + biased - 1⟩

/-- Four times the mantissa, so that halves and quarters of a unit are whole. -/
def centre (number : Binary) : Nat :=
  4 * number.mantissa

/-- The upper end, in quarters of a unit, of what rounds to the number. -/
def upper (number : Binary) : Nat :=
  4 * number.mantissa + 2

/-- The lower end, in quarters of a unit, of what rounds to the number. -/
def lower (number : Binary) : Nat :=
  if number.mantissa = leastNormal ∧ number.exponent ≠ leastExponent then
    4 * number.mantissa - 1
  else
    4 * number.mantissa - 2

/-- Scale quarters of a unit to a grid of step `10 ^ step`, up to `gridUnit`. -/
def onGrid
    (number : Binary)
    (step : Int)
    (quarters : Nat) :
    Nat :=
  (quarters <<< (number.exponent - 2).toNat) * Nat.pow 10 (-step).toNat

/-- What one point of the grid of step `10 ^ step` weighs on the scale of `onGrid`. -/
def gridUnit
    (number : Binary)
    (step : Int) :
    Nat :=
  (1 <<< (2 - number.exponent).toNat) * Nat.pow 10 step.toNat

/-- Whether the grid point `point · 10 ^ step` rounds to the number. -/
def readsBack
    (number : Binary)
    (step : Int)
    (point : Nat) :
    Bool :=
  let weight := point * number.gridUnit step
  let low := number.onGrid step number.lower
  let high := number.onGrid step number.upper
  if number.mantissa % 2 = 0 then
    decide (low ≤ weight ∧ weight ≤ high)
  else
    decide (low < weight ∧ weight < high)

/-- The exponent of ten of the first digit of a number that is not zero. -/
def topExponent (number : Binary) : Int :=
  let value := number.onGrid 0 number.centre
  let one := number.gridUnit 0
  if one ≤ value then
    ((Nat.toDigits 10 (value / one)).length : Int) - 1
  else
    -((Nat.toDigits 10 ((one - 1) / value)).length : Int)

/-- The grid point that reads back, of two the nearer, of two equally near the even one. -/
def gridPoint?
    (number : Binary)
    (step : Int) :
    Option Nat :=
  let value := number.onGrid step number.centre
  let unit := number.gridUnit step
  let below := value / unit
  match number.readsBack step below, number.readsBack step (below + 1) with
  | true, true =>
      let gap := 2 * (value - below * unit)
      if gap < unit ∨ (gap = unit ∧ below % 2 = 0) then some below else some (below + 1)
  | true, false => some below
  | false, true => some (below + 1)
  | false, false => none

/-- A grid point with at most `digits + more` digits, trying fewer digits first. -/
def shortestFrom
    (number : Binary)
    (digits : Nat) :
    Nat → Nat × Int
  | 0 => (0, 0)
  | more + 1 =>
      let step := number.topExponent - digits
      match number.gridPoint? step with
      | some point => (point, step)
      | none => shortestFrom number (digits + 1) more

/-- The shortest decimal of a number: digits and the exponent of ten of the last one. -/
def shortest (number : Binary) : Nat × Int :=
  shortestFrom number 0 17

end Binary

/-- Which exponents of the first digit are written without an exponent. -/
structure Layout where
  lowest : Int
  highest : Int
  deriving Repr, DecidableEq

namespace Layout

/-- The digits with the point at its place. -/
def positional
    (digits : List Char)
    (exponent : Int) :
    List Char :=
  if exponent < 0 then
    '0' :: '.' :: (List.replicate (-exponent - 1).toNat '0' ++ digits)
  else
    let whole := exponent.toNat + 1
    if digits.length ≤ whole then
      digits ++ List.replicate (whole - digits.length) '0' ++ ['.', '0']
    else
      digits.take whole ++ '.' :: digits.drop whole

/-- The digits with the point behind the first one, and an exponent with its sign. -/
def scientific
    (digits : List Char)
    (exponent : Int) :
    List Char :=
  let mantissa :=
    match digits with
    | first :: second :: rest => first :: '.' :: second :: rest
    | _ => digits
  mantissa ++ 'e' :: (if exponent < 0 then '-' else '+') :: Nat.toDigits 10 exponent.natAbs

/-- The text of a decimal without its sign. -/
def magnitude
    (layout : Layout)
    (point : Nat)
    (step : Int) :
    List Char :=
  let all := Nat.toDigits 10 point
  let exponent := step + all.length - 1
  let digits := (all.reverse.dropWhile (· == '0')).reverse
  if layout.lowest ≤ exponent ∧ exponent ≤ layout.highest then
    positional digits exponent
  else
    scientific digits exponent

/-- The text of a finite number. -/
def text
    (layout : Layout)
    (value : Float) :
    String :=
  let number := Binary.ofBits value.toBits
  let sign := if 0x8000000000000000 ≤ value.toBits.toNat then ['-'] else []
  let unsigned :=
    if number.mantissa = 0 then
      ['0', '.', '0']
    else
      let (point, step) := number.shortest
      layout.magnitude point step
  String.ofList (sign ++ unsigned)

end Layout

end Chip8.Decimal
