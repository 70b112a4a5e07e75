import Chip8.Keypad.Text

namespace Chip8.Hex

/-!
# Reading hexadecimal numerals

The digits of a number, with any zeros before them, read back as the number.
A numeral is exactly as wide as it was asked for unless the number needs more
digits, and it holds digits only.
-/

/-- The upper-case character of a digit is read as the digit. -/
theorem digitValue?_toUpper_digitChar
    {digit : Nat}
    (small : digit < 16) :
    digitValue? (Nat.digitChar digit).toUpper = some digit := by
  have each : ∀ digit : Fin 16, digitValue? (Nat.digitChar digit.val).toUpper = some digit.val := by
    decide
  exact each ⟨digit, small⟩

/-- Digits in two parts are read one part after the other. -/
theorem valueFrom?_append
    (value : Nat)
    (before after : List Char) :
    valueFrom? value (before ++ after) =
      (valueFrom? value before).bind fun read => valueFrom? read after := by
  induction before generalizing value with
  | nil =>
      rfl
  | cons c rest inductionHypothesis =>
      simp only [List.cons_append, valueFrom?]
      cases digitValue? c with
      | none => rfl
      | some digit => exact inductionHypothesis _

/-- The digits of a number are read as the number. -/
theorem valueFrom?_digits
    (n : Nat) :
    valueFrom? 0 (digits n) = some n := by
  induction n using Nat.strongRecOn with
  | ind n inductionHypothesis =>
      unfold digits at inductionHypothesis ⊢
      by_cases small : n < 16
      · rw [Nat.toDigits_of_lt_base small]
        simp [valueFrom?, digitValue?_toUpper_digitChar small]
      · have large : 16 ≤ n := Nat.le_of_not_lt small
        have last := digitValue?_toUpper_digitChar (Nat.mod_lt n (by decide : 0 < 16))
        rw [Nat.toDigits_of_base_le (by decide) large, List.map_append, valueFrom?_append,
          inductionHypothesis (n / 16) (by omega)]
        simp [valueFrom?, last, Nat.div_add_mod' n 16]

/-- Zeros in front add nothing. -/
theorem valueFrom?_replicate_zero
    (count : Nat)
    (text : List Char) :
    valueFrom? 0 (List.replicate count '0' ++ text) = valueFrom? 0 text := by
  induction count with
  | zero =>
      rfl
  | succ count inductionHypothesis =>
      rw [List.replicate_succ, List.cons_append, valueFrom?]
      exact inductionHypothesis

/-- A numeral is read as its number, with all the zeros in front. -/
theorem valueFrom?_numeral
    (width n : Nat) :
    valueFrom? 0 (numeral width n).toList = some n := by
  rw [numeral, String.toList_ofList, List.leftpad, valueFrom?_replicate_zero]
  exact valueFrom?_digits n

/-- A numeral reads back as its number. -/
theorem value?_numeral
    (width n : Nat) :
    value? (numeral width n).toList = some n := by
  have digits : (numeral width n).toList ≠ [] := by
    simp [numeral, Hex.digits, List.leftpad, Nat.toDigits_ne_nil]
  obtain ⟨first, rest, shape⟩ := List.exists_cons_of_ne_nil digits
  have read := valueFrom?_numeral width n
  rw [shape] at read ⊢
  exact read

/-- A numeral is as wide as it was asked for when the number has no more digits. -/
theorem numeral_length
    {width n : Nat}
    (fits : (digits n).length ≤ width) :
    (numeral width n).toList.length = width := by
  rw [numeral, String.toList_ofList, List.length_leftpad, Nat.max_eq_left fits]

/-- A word of sixteen bits has four digits at most. -/
theorem digits_length_le
    (word : UInt16) :
    (digits word.toNat).length ≤ 4 := by
  rw [digits, List.length_map]
  exact (Nat.length_toDigits_le_iff (by decide) (by decide)).mpr word.toNat_lt

/-- What is read as a number consists of digits. -/
theorem isDigit_of_valueFrom?
    {value n : Nat}
    {text : List Char}
    (read : valueFrom? value text = some n) :
    ∀ c ∈ text, (digitValue? c).isSome := by
  induction text generalizing value with
  | nil =>
      exact fun _ member => nomatch member
  | cons first rest inductionHypothesis =>
      rw [valueFrom?] at read
      split at read
      next digit found =>
        intro c member
        rcases List.mem_cons.mp member with rfl | member
        · rw [found]
          rfl
        · exact inductionHypothesis read c member
      next =>
        cases read

/-- A numeral holds digits only. -/
theorem isDigit_of_mem_numeral
    {width n : Nat}
    {c : Char}
    (member : c ∈ (numeral width n).toList) :
    (digitValue? c).isSome :=
  isDigit_of_valueFrom? (valueFrom?_numeral width n) c member

end Chip8.Hex
