import Chip8.Proofs.Text.Positional
import Mathlib.Data.List.TakeWhile

namespace Chip8

/-!
# Key texts

A key text is a row of hexadecimal digits with a value below sixteen, behind one
plus sign at most and between any white space.  Exactly these texts are read, and
every other text is named in the message about it.
-/

namespace Text

variable {before core after : List Char}

/-- A text without white space loses nothing at its start. -/
theorem dropWhile_isBlank_of_solid
    (solid : ∀ c ∈ core, isBlank c = false) :
    core.dropWhile isBlank = core := by
  cases core with
  | nil =>
      rfl
  | cons first rest =>
      exact List.dropWhile_cons_of_neg (by simp [solid first List.mem_cons_self])

/-- White space around a text that holds none is what trimming takes away. -/
theorem trimmed_of_solid
    (leading : ∀ c ∈ before, isBlank c = true)
    (solid : ∀ c ∈ core, isBlank c = false)
    (trailing : ∀ c ∈ after, isBlank c = true) :
    trimmed (before ++ (core ++ after)) = core := by
  rw [trimmed, List.dropWhile_append_of_pos leading]
  cases core with
  | nil =>
      rw [List.nil_append, List.dropWhile_eq_nil_iff.mpr trailing]
      rfl
  | cons first rest =>
      have start : isBlank first = false :=
        solid first List.mem_cons_self
      rw [List.cons_append, List.dropWhile_cons_of_neg (by simp [start]), ← List.cons_append,
        List.reverse_append, List.dropWhile_append_of_pos fun c member =>
          trailing c (List.mem_reverse.mp member),
        dropWhile_isBlank_of_solid fun c member => solid c (List.mem_reverse.mp member),
        List.reverse_reverse]

/-- A text is what trimming leaves of it, with white space before and behind. -/
theorem exists_trimmed
    (text : List Char) :
    ∃ before after,
      (∀ c ∈ before, isBlank c = true) ∧
        (∀ c ∈ after, isBlank c = true) ∧
        text = before ++ (trimmed text ++ after) := by
  refine
    ⟨text.takeWhile isBlank, ((text.dropWhile isBlank).reverse.takeWhile isBlank).reverse,
      fun c member => List.mem_takeWhile_imp member,
      fun c member => List.mem_takeWhile_imp (List.mem_reverse.mp member), ?_⟩
  rw [trimmed, ← List.reverse_append, List.takeWhile_append_dropWhile, List.reverse_reverse,
    List.takeWhile_append_dropWhile]

end Text

namespace Keypad

/-- The signs that may stand before a key: none, or a plus. -/
def signs : List (List Char) :=
  [[], ['+']]

/-- A text is a numeral: a sign, if any, and digits, with nothing but white space around them. -/
def IsNumeral
    (text : List Char)
    (value : Nat) : Prop :=
  ∃ before sign digits after,
    text = before ++ ((sign ++ digits) ++ after) ∧
      (∀ c ∈ before, Text.isBlank c = true) ∧
      (∀ c ∈ after, Text.isBlank c = true) ∧
      sign ∈ signs ∧
      digits ≠ [] ∧
      Hex.Denotes digits value

/-- A text names a key by its numeral. -/
def NamesKey
    (text : String)
    (key : UInt8) : Prop :=
  IsNumeral text.toList key.toNat ∧ key ≤ 15

/-- Neither a digit nor a plus sign is white space. -/
theorem solid_of_numeral
    {sign digits : List Char}
    {value : Nat}
    (signed : sign ∈ signs)
    (read : Hex.value? digits = some value) :
    ∀ c ∈ sign ++ digits, Text.isBlank c = false := by
  have plus : ∀ sign ∈ signs, ∀ c ∈ sign, Text.isBlank c = false := by
    simp [signs, Text.isBlank]
  have listed : ∀ entry ∈ Hex.digitTable, Text.isBlank entry.1 = false := by
    decide
  intro c member
  rcases List.mem_append.mp member with inSign | inDigits
  · exact plus sign signed c inSign
  · have isDigit : (Hex.digitValue? c).isSome := by
      cases digits with
      | nil =>
          cases inDigits
      | cons =>
          exact Hex.isDigit_of_valueFrom? read c inDigits
    obtain ⟨digit, found⟩ := Option.isSome_iff_exists.mp isDigit
    exact listed (c, digit) (Hex.digitValue?_eq_some_iff.mp found)

/-- What is behind a sign is found again, since no digit is a plus. -/
theorem withoutPlus_of_numeral
    {sign digits : List Char}
    {value : Nat}
    (signed : sign ∈ signs)
    (read : Hex.value? digits = some value) :
    withoutPlus (sign ++ digits) = digits := by
  simp only [signs, List.mem_cons, List.not_mem_nil, or_false] at signed
  rcases signed with rfl | rfl
  · cases digits with
    | nil =>
        rfl
    | cons first rest =>
        have noPlus : first ≠ '+' := by
          rintro rfl
          cases read
        rw [List.nil_append]
        exact withoutPlus.eq_2 _ fun rest same => noPlus (List.cons.inj same).1
  · rfl

/-- A text is itself without its plus sign, behind the sign that it may have. -/
theorem exists_sign
    (text : List Char) :
    ∃ sign ∈ signs, text = sign ++ withoutPlus text := by
  unfold withoutPlus
  split
  · exact ⟨['+'], by decide, rfl⟩
  · exact ⟨[], by decide, rfl⟩

/-- Behind its white space and its sign a text has a value exactly when it is a numeral of it. -/
theorem value?_withoutPlus_trimmed_iff
    {text : List Char}
    {value : Nat} :
    Hex.value? (withoutPlus (Text.trimmed text)) = some value ↔ IsNumeral text value := by
  constructor
  · intro read
    obtain ⟨before, after, leading, trailing, split⟩ := Text.exists_trimmed text
    obtain ⟨sign, signed, shape⟩ := exists_sign (Text.trimmed text)
    obtain ⟨nonempty, denotes⟩ := Hex.value?_eq_some_iff.mp read
    exact ⟨before, sign, _, after, by rw [← shape, ← split], leading, trailing, signed, nonempty,
      denotes⟩
  · rintro ⟨before, sign, digits, after, rfl, leading, trailing, signed, nonempty, denotes⟩
    have read := Hex.value?_eq_some_iff.mpr ⟨nonempty, denotes⟩
    rw [Text.trimmed_of_solid leading (solid_of_numeral signed read) trailing,
      withoutPlus_of_numeral signed read, read]

/-- Read a key from digits that are gathered in a byte, with a check for overflow at each. -/
def gatherKey? (text : String) : Option UInt8 :=
  match withoutPlus (Text.trimmed text.toList) with
  | [] => none
  | c :: rest => (Hex.gather? 0 (c :: rest)).filter fun key => key ≤ 15

/-- A text names a key exactly when, trimmed and without its sign, it is the numeral of one. -/
theorem parseKey_eq_ok_iff
    {text : String}
    {key : UInt8} :
    parseKey text = .ok key ↔
      Hex.value? (withoutPlus (Text.trimmed text.toList)) = some key.toNat ∧ key ≤ 15 := by
  have small : key ≤ 15 ↔ key.toNat < keyCount := by
    rw [UInt8.le_iff_toNat_le]
    exact Nat.lt_succ_iff.symm
  rw [small]
  unfold parseKey
  split
  next value read =>
    rw [read, Option.some.injEq]
    split
    next fits =>
      have byte : value < UInt8.size :=
        Nat.lt_trans fits (by decide)
      rw [Except.ok.injEq, ← UInt8.toNat_inj, UInt8.toNat_ofNat_of_lt' byte]
      exact ⟨fun same => ⟨same, same ▸ fits⟩, And.left⟩
    next large =>
      refine iff_of_false (by simp) ?_
      rintro ⟨rfl, fits⟩
      exact large fits
  next unread =>
    rw [unread]
    simp

/-- A text that is not read is kept in the mistake. -/
theorem parseKey_eq_error_iff
    {text : String}
    {error : KeyError} :
    parseKey text = .error error ↔ error = ⟨text⟩ ∧ ¬∃ key, parseKey text = .ok key := by
  have kept : parseKey text = .error ⟨text⟩ ∨ ∃ key, parseKey text = .ok key := by
    unfold parseKey
    split
    next =>
      split
      next =>
        exact .inr ⟨_, rfl⟩
      next =>
        exact .inl rfl
    next =>
      exact .inl rfl
  rcases kept with failed | ⟨key, read⟩
  · simp [failed, eq_comm]
  · simp [read]

/-- Gathering digits in a byte finds a key exactly where reading the numeral does. -/
theorem gatherKey?_eq_some_iff
    {text : String}
    {key : UInt8} :
    gatherKey? text = some key ↔
      Hex.value? (withoutPlus (Text.trimmed text.toList)) = some key.toNat ∧ key ≤ 15 := by
  unfold gatherKey?
  split
  next empty =>
    rw [empty]
    simp [Hex.value?]
  next c rest shape =>
    rw [shape, Hex.value?, Option.filter_eq_some_iff, Hex.gather?_eq_some_iff, decide_eq_true_iff]
    rfl

/--
A text is read as a key exactly when it names this key.  A text that names none is
quoted as it is, and nothing depends on whether the digits are gathered in a byte.
-/
theorem parseKey_reads_key_texts
    (text : String) :
    (∀ key, parseKey text = .ok key ↔ NamesKey text key) ∧
      (∀ error,
        parseKey text = .error error ↔ error = ⟨text⟩ ∧ ¬∃ key, NamesKey text key) ∧
      KeyError.message ⟨text⟩ = "invalid key '" ++ text ++ "': expected a hex digit 0-F" ∧
      parseKey text = (gatherKey? text).elim (.error ⟨text⟩) .ok := by
  have reads (key : UInt8) : parseKey text = .ok key ↔ NamesKey text key := by
    rw [parseKey_eq_ok_iff, value?_withoutPlus_trimmed_iff]
    rfl
  refine ⟨reads, fun error => ?_, rfl, ?_⟩
  · simp only [← reads]
    exact parseKey_eq_error_iff
  · cases gathered : gatherKey? text with
    | some key =>
        exact parseKey_eq_ok_iff.mpr (gatherKey?_eq_some_iff.mp gathered)
    | none =>
        refine parseKey_eq_error_iff.mpr ⟨rfl, ?_⟩
        rintro ⟨key, read⟩
        rw [parseKey_eq_ok_iff, ← gatherKey?_eq_some_iff, gathered] at read
        cases read

example :
    parseKey "\u3000+0000000000F\n" = .ok 15 ∧
      parseKey "100000000000" = .error ⟨"100000000000"⟩ ∧
      parseKey "+ f" = .error ⟨"+ f"⟩ := by
  decide +kernel

end Keypad

end Chip8
