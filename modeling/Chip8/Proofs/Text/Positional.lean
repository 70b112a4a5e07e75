import Chip8.Proofs.Text.Hexadecimal
import Mathlib.Data.List.Forall2
import Mathlib.Data.Nat.Digits.Defs

namespace Chip8.Hex

/-!
# Hexadecimal digits in positional notation

A table says which characters are hexadecimal digits, and what a row of them is
worth follows from their places.  Reading a numeral finds exactly this value,
also where the digits are gathered in a byte that must not overflow.
-/

/-- The hexadecimal digits of either case, each with its value. -/
def digitTable : List (Char × Nat) :=
  [ ('0', 0), ('1', 1), ('2', 2), ('3', 3), ('4', 4), ('5', 5), ('6', 6), ('7', 7), ('8', 8)
  , ('9', 9), ('a', 10), ('b', 11), ('c', 12), ('d', 13), ('e', 14), ('f', 15), ('A', 10)
  , ('B', 11), ('C', 12), ('D', 13), ('E', 14), ('F', 15) ]

/-- A row of digits has a value: the last digit counts ones, the one before it sixteens. -/
def Denotes
    (digits : List Char)
    (value : Nat) : Prop :=
  ∃ values : List Nat,
    List.Forall₂ (fun c digit => (c, digit) ∈ digitTable) digits values ∧
      Nat.ofDigits 16 values.reverse = value

/-- The characters of a range are the ones that it counts off from its first. -/
theorem mem_digitTable_of_range
    {first last c : Char}
    (least : Nat)
    (listed :
      ∀ offset < last.toNat + 1 - first.toNat,
        (Char.ofNat (first.toNat + offset), offset + least) ∈ digitTable)
    (within : first ≤ c ∧ c ≤ last) :
    (c, c.toNat - first.toNat + least) ∈ digitTable := by
  have start : first.toNat ≤ c.toNat :=
    within.1
  have ends : c.toNat ≤ last.toNat :=
    within.2
  have found := listed (c.toNat - first.toNat) (by omega)
  rwa [Nat.add_sub_cancel' start, Char.ofNat_toNat] at found

/-- A character has a value as a digit exactly when the table has it with this value. -/
theorem digitValue?_eq_some_iff
    {c : Char}
    {digit : Nat} :
    digitValue? c = some digit ↔ (c, digit) ∈ digitTable := by
  constructor
  · intro found
    unfold digitValue? at found
    split at found
    next decimal =>
      rw [← Option.some.inj found]
      exact mem_digitTable_of_range 0 (by decide) decimal
    next =>
      split at found
      next lower =>
        rw [← Option.some.inj found]
        exact mem_digitTable_of_range 10 (by decide) lower
      next =>
        split at found
        next upper =>
          rw [← Option.some.inj found]
          exact mem_digitTable_of_range 10 (by decide) upper
        next =>
          cases found
  · intro member
    have each : ∀ entry ∈ digitTable, digitValue? entry.1 = some entry.2 := by
      decide
    exact each (c, digit) member

/-- A further digit in front counts for as many sixteens as there are digits behind it. -/
theorem ofDigits_reverse_cons
    (digit : Nat)
    (values : List Nat) :
    Nat.ofDigits 16 (digit :: values).reverse =
      digit * 16 ^ values.length + Nat.ofDigits 16 values.reverse := by
  rw [List.reverse_cons, Nat.ofDigits_append, Nat.ofDigits_singleton, List.length_reverse,
    Nat.mul_comm, Nat.add_comm]

/-- Reading goes on from the digits before as their value in front of the rest. -/
theorem valueFrom?_eq_some_iff
    {value result : Nat}
    {digits : List Char} :
    valueFrom? value digits = some result ↔
      ∃ rest, Denotes digits rest ∧ value * 16 ^ digits.length + rest = result := by
  -- The value so far takes part in every digit, so the claim is made for all of them.
  induction digits generalizing value with
  | nil =>
      simp [valueFrom?, Denotes]
  | cons c digits inductionHypothesis =>
      have shifts
          {digit : Nat}
          {values : List Nat}
          (same : digits.length = values.length) :
          (value * 16 + digit) * 16 ^ digits.length + Nat.ofDigits 16 values.reverse =
            value * 16 ^ (c :: digits).length + Nat.ofDigits 16 (digit :: values).reverse := by
        rw [ofDigits_reverse_cons, ← same, List.length_cons]
        grind
      rw [valueFrom?]
      constructor
      · intro read
        split at read
        next digit found =>
          obtain ⟨_, ⟨values, listed, rfl⟩, rfl⟩ := inductionHypothesis.mp read
          exact ⟨_, ⟨digit :: values, .cons (digitValue?_eq_some_iff.mp found) listed, rfl⟩,
            (shifts listed.length_eq).symm⟩
        next =>
          cases read
      · rintro ⟨_, ⟨_, _ | ⟨member, listed⟩, rfl⟩, rfl⟩
        rw [digitValue?_eq_some_iff.mpr member]
        exact inductionHypothesis.mpr ⟨_, ⟨_, listed, rfl⟩, shifts listed.length_eq⟩

/-- A numeral is read exactly when it is a row of digits, as their value. -/
theorem value?_eq_some_iff
    {digits : List Char}
    {value : Nat} :
    value? digits = some value ↔ digits ≠ [] ∧ Denotes digits value := by
  cases digits with
  | nil =>
      simp [value?]
  | cons c digits =>
      rw [value?, valueFrom?_eq_some_iff]
      simp

/-- Gather digits in a byte, behind those before, as long as no step leaves the byte. -/
def gather?
    (value : UInt8) :
    List Char → Option UInt8
  | [] => some value
  | c :: rest =>
      match digitValue? c with
      | some digit =>
          if value.toNat * 16 < UInt8.size ∧ value.toNat * 16 + digit < UInt8.size then
            gather? (value * 16 + UInt8.ofNat digit) rest
          else
            none
      | none => none

/-- A value never shrinks when further digits are read. -/
theorem le_of_valueFrom?
    {value result : Nat}
    {digits : List Char}
    (read : valueFrom? value digits = some result) :
    value ≤ result := by
  obtain ⟨rest, -, rfl⟩ := valueFrom?_eq_some_iff.mp read
  exact Nat.le_trans (Nat.le_mul_of_pos_right value (Nat.pow_pos (by decide)))
    (Nat.le_add_right _ rest)

/-- A byte gathers digits exactly when their value fits it. -/
theorem gather?_eq_some_iff
    {value result : UInt8}
    {digits : List Char} :
    gather? value digits = some result ↔ valueFrom? value.toNat digits = some result.toNat := by
  induction digits generalizing value with
  | nil =>
      simp [gather?, valueFrom?, UInt8.toNat_inj]
  | cons c digits inductionHypothesis =>
      rw [gather?, valueFrom?]
      cases digitValue? c with
      | none =>
          simp
      | some digit =>
          dsimp only
          split
          next fits =>
            have gathered : (value * 16 + UInt8.ofNat digit).toNat = value.toNat * 16 + digit := by
              simp only [UInt8.size] at fits
              simp only [UInt8.toNat_add, UInt8.toNat_mul, UInt8.toNat_ofNat', UInt8.reduceToNat]
              omega
            rw [inductionHypothesis, gathered]
          next overflows =>
            refine iff_of_false (by simp) fun read => overflows ?_
            have grows := le_of_valueFrom? read
            have small := result.toNat_lt
            simp only [UInt8.size]
            omega

end Chip8.Hex
