import Chip8.Json.Reader
import Chip8.Json.Writer
import Chip8.Proofs.Json.Strings

namespace Chip8.Json

/-!
# Written values read back

What is written for a number, a name or nothing is read back as it was, behind
any blanks and up to the character that ends a value in a list or an object.
-/

/-- The characters that may follow a value: blanks, a comma and the closing brackets. -/
def valueEnds : List Char :=
  [' ', '\t', '\n', '\r', ',', ']', '\x7d']

/-- A text at which a value before it ends. -/
def EndsValue (text : List Char) : Prop :=
  ∀ c ∈ text.head?, c ∈ valueEnds

/-- The end of the text ends a value. -/
theorem endsValue_nil : EndsValue [] :=
  fun _ first => nomatch first

/-- A reader gives back a value from what is written for it, behind any blanks. -/
def Reader.ReadsBack
    {α : Type}
    (reader : Reader α)
    (written : Written)
    (value : α) : Prop :=
  ∀ blanks rest,
    (∀ c ∈ blanks, isBlank c = true) →
    EndsValue rest →
    reader.run (blanks ++ (written ++ rest)) = .ok (value, rest)

/-- A text that starts with a token has no white space in front. -/
@[simp] theorem skipBlanks_cons_of_token
    {c : Char}
    (token : isBlank c = false)
    (rest : List Char) :
    skipBlanks (c :: rest) = c :: rest :=
  List.dropWhile_cons_of_neg (by simp [token])

/-- Blanks before a token are skipped. -/
theorem skipBlanks_append
    {blanks : List Char}
    (areBlank : ∀ c ∈ blanks, isBlank c = true)
    {c : Char}
    (token : isBlank c = false)
    (rest : List Char) :
    skipBlanks (blanks ++ c :: rest) = c :: rest := by
  rw [skipBlanks, List.dropWhile_append_of_pos areBlank]
  exact skipBlanks_cons_of_token token rest

/-! ## Numbers -/

/-- What ends a value does not start with a digit. -/
theorem startsWithDigit_of_endsValue
    {rest : List Char}
    (ends : EndsValue rest) :
    startsWithDigit rest = false := by
  have noDigits : ∀ c ∈ valueEnds, c.isDigit = false := by
    simp [valueEnds, Char.isDigit]
  cases rest with
  | nil => rfl
  | cons c rest => exact noDigits c (ends c rfl)

/-- An integer is complete where its value ends. -/
theorem readAfterInteger_of_endsValue
    {rest : List Char}
    (ends : EndsValue rest)
    (n : Nat) :
    readAfterInteger true n rest = .ok (.natural n, rest) := by
  have noMarks : ∀ c ∈ valueEnds, c ≠ '.' ∧ isExponentMark c = false := by
    simp [valueEnds, isExponentMark]
  cases rest with
  | nil =>
      rfl
  | cons c rest =>
      obtain ⟨noPoint, noExponent⟩ := noMarks c (ends c rfl)
      simp [readAfterInteger, noPoint, noExponent, ofSignificand]

/-- Further digits make a number no smaller. -/
theorem le_ofDigitChars
    (digits : List Char)
    (value : Nat) :
    value ≤ Nat.ofDigitChars 10 digits value := by
  rw [Nat.ofDigitChars_eq_ofDigitChars_zero]
  exact Nat.le_trans (Nat.le_mul_of_pos_left value (Nat.pow_pos (by decide)))
    (Nat.le_add_right _ _)

/-- Digits whose number stays within the limit are all taken. -/
theorem takeDigits_append
    {limit value : Nat}
    {digits rest : List Char}
    (areDigits : ∀ c ∈ digits, c.isDigit = true)
    (fits : Nat.ofDigitChars 10 digits value ≤ limit)
    (ends : startsWithDigit rest = false)
    (count : Nat) :
    takeDigits limit value count (digits ++ rest) =
      ⟨Nat.ofDigitChars 10 digits value, count + digits.length, rest⟩ := by
  induction digits generalizing value count with
  | nil =>
      cases rest with
      | nil => rfl
      | cons c rest =>
          have noDigit : c.isDigit = false :=
            ends
          simp [takeDigits, noDigit]
  | cons c digits inductionHypothesis =>
      have next : value * 10 + digitValue c = 10 * value + (c.toNat - '0'.toNat) := by
        rw [digitValue, Nat.mul_comm]
      rw [Nat.ofDigitChars_cons, ← next] at fits ⊢
      have fitsSoFar : value * 10 + digitValue c ≤ limit :=
        Nat.le_trans (le_ofDigitChars _ _) fits
      rw [List.cons_append, takeDigits, if_pos ⟨areDigits c List.mem_cons_self, fitsSoFar⟩,
        inductionHypothesis (fun d member => areDigits d (List.mem_cons_of_mem _ member)) fits,
        List.length_cons, Nat.add_right_comm, Nat.add_assoc]

/-- The numeral of a number consists of digits. -/
theorem natural_isDigit
    (n : Nat) :
    ∀ c ∈ natural n, c.isDigit = true :=
  fun _ member => Nat.isDigit_of_mem_toDigits (by decide) (by decide) member

/-- The numeral of a positive number does not start with a zero. -/
theorem natural_eq_cons
    {n : Nat}
    (positive : 0 < n) :
    ∃ first digits, natural n = first :: digits ∧ first ≠ '0' := by
  induction n using Nat.strongRecOn with
  | ind n inductionHypothesis =>
      by_cases small : n < 10
      · have noZero : ∀ digit : Fin 10, 0 < digit.val → Nat.digitChar digit.val ≠ '0' := by
          decide
        exact ⟨_, [], Nat.toDigits_of_lt_base small, noZero ⟨n, small⟩ positive⟩
      · have large : 10 ≤ n := Nat.le_of_not_lt small
        obtain ⟨first, digits, shape, noZero⟩ := inductionHypothesis (n / 10) (by omega) (by omega)
        refine ⟨first, digits ++ [Nat.digitChar (n % 10)], ?_, noZero⟩
        rw [natural, Nat.toDigits_of_base_le (by decide) large]
        exact congrArg (· ++ _) shape

/-- A numeral is a number of the grammar. -/
theorem natural_isNumber
    (n : Nat) :
    IsNumber (natural n) := by
  have whole : IsWhole (natural n) := by
    rcases Nat.eq_zero_or_pos n with rfl | positive
    · exact .inl rfl
    · obtain ⟨first, digits, shape, noZero⟩ := natural_eq_cons positive
      refine .inr ⟨⟨Nat.toDigits_ne_nil, natural_isDigit n⟩, ?_⟩
      rw [shape]
      simpa using noZero
  exact ⟨[], by simp, natural n, [], [], whole, .inl rfl, .inl rfl, by simp⟩

/-- A number that fits is read from its numeral. -/
theorem readNumber_natural
    {n : Nat}
    {rest : List Char}
    (fits : n ≤ maxSignificand)
    (ends : EndsValue rest) :
    readNumber true (natural n ++ rest) = .ok (.natural n, rest) := by
  have noDigit := startsWithDigit_of_endsValue ends
  have behind := readAfterInteger_of_endsValue ends
  rcases Nat.eq_zero_or_pos n with rfl | positive
  · simp [natural, readNumber, noDigit, behind]
  · obtain ⟨first, digits, shape, noZero⟩ := natural_eq_cons positive
    have areDigits := natural_isDigit n
    have value : Nat.ofDigitChars 10 digits (digitValue first) = n := by
      have whole : Nat.ofDigitChars 10 (natural n) 0 = n :=
        Nat.ofDigitChars_ten_toDigits
      rw [shape, Nat.ofDigitChars_cons] at whole
      simpa [digitValue] using whole
    rw [shape] at areDigits ⊢
    have otherDigits : ∀ c ∈ digits, c.isDigit = true :=
      fun c member => areDigits c (List.mem_cons_of_mem _ member)
    have taken :
        takeDigits maxSignificand (digitValue first) 0 (digits ++ rest) =
          ⟨n, 0 + digits.length, rest⟩ := by
      rw [takeDigits_append otherDigits (by rwa [value]) noDigit, value]
    rw [List.cons_append, readNumber, if_neg noZero, if_pos (areDigits first List.mem_cons_self),
      taken]
    simp [noDigit, behind]

/-- A digit differs from what is no digit. -/
theorem ne_of_isDigit
    {c d : Char}
    (digit : c.isDigit = true)
    (noDigit : d.isDigit = false) :
    c ≠ d := by
  rintro rfl
  rw [noDigit] at digit
  cases digit

/-- A numeral starts with a digit, which is neither a blank nor a sign nor a letter. -/
theorem natural_starts
    (n : Nat) :
    ∃ first digits,
      natural n = first :: digits ∧
        first.isDigit = true ∧ isBlank first = false ∧ first ≠ '-' ∧ first ≠ 'n' := by
  obtain ⟨first, digits, shape⟩ : ∃ first digits, natural n = first :: digits :=
    List.exists_cons_of_ne_nil Nat.toDigits_ne_nil
  have digit : first.isDigit = true :=
    natural_isDigit n first (by simp [shape])
  have differs {c : Char} (noDigit : c.isDigit = false) : first ≠ c :=
    ne_of_isDigit digit noDigit
  refine ⟨first, digits, shape, digit, ?_, differs rfl, differs rfl⟩
  simp [isBlank, ne_of_isDigit digit]

namespace Reader

variable {α : Type}

/-- A number within the limits of a reader reads back. -/
theorem natural_readsBack
    {limit n : Nat}
    (fits : n ≤ limit)
    (limited : limit ≤ maxSignificand)
    (expected : String) :
    (Reader.natural limit expected).ReadsBack (Json.natural n) n := by
  intro blanks rest areBlank ends
  obtain ⟨first, digits, shape, digit, token, noSign, _⟩ := natural_starts n
  have read := readNumber_natural (Nat.le_trans fits limited) ends
  rw [shape] at read ⊢
  rw [List.cons_append] at read ⊢
  simp only [Reader.natural, readNatural, skipBlanks_append areBlank token, if_neg noSign,
    if_pos digit, read]
  simp [Except.bind, fitNatural, fits]

/-- What reads back does so whatever is made of it. -/
theorem ReadsBack.map
    {β : Type}
    {reader : Reader α}
    {written : Written}
    {value : α}
    (reads : reader.ReadsBack written value)
    (change : α → β) :
    (reader.map change).ReadsBack written (change value) := by
  intro blanks rest areBlank ends
  simp only [Reader.map, reads blanks rest areBlank ends]

/-- A number of 32 bits reads back. -/
theorem word_readsBack
    (value : UInt32) :
    Reader.word.ReadsBack (Json.natural value.toNat) value := by
  have fits : value.toNat ≤ UInt32.size - 1 :=
    Nat.le_sub_one_of_lt value.toNat_lt
  have reads := (natural_readsBack fits (by decide) "u32").map UInt32.ofNat
  rwa [UInt32.ofNat_toNat] at reads

/-- A number of 64 bits reads back. -/
theorem longWord_readsBack
    (value : UInt64) :
    Reader.longWord.ReadsBack (Json.natural value.toNat) value := by
  have fits : value.toNat ≤ UInt64.size - 1 :=
    Nat.le_sub_one_of_lt value.toNat_lt
  have reads := (natural_readsBack fits (Nat.le_refl _) "u64").map UInt64.ofNat
  rwa [UInt64.ofNat_toNat] at reads

/-- A number that may be missing is read back, and so is its absence. -/
theorem optional_readsBack
    {reader : Reader α}
    {number : α → Nat}
    (reads : ∀ value, reader.ReadsBack (Json.natural (number value)) value)
    (value : Option α) :
    reader.optional.ReadsBack (Json.optional (fun value => Json.natural (number value)) value)
      value := by
  intro blanks rest areBlank ends
  cases value with
  | none =>
      have start : skipBlanks (blanks ++ (null ++ rest)) = null ++ rest :=
        skipBlanks_append areBlank rfl _
      simp only [Json.optional, Reader.optional, readOptional, start]
      simp [null, skipWord]
  | some value =>
      obtain ⟨first, digits, shape, _, token, _, noNull⟩ := natural_starts (number value)
      have read := reads value [] rest (List.forall_mem_nil _) ends
      rw [shape, List.nil_append, List.cons_append] at read
      simp only [Json.optional, Reader.optional, readOptional, shape, List.cons_append,
        skipBlanks_append areBlank token, if_neg noNull, read]

end Reader

/-! ## Names -/

/-- A name that is written as it is: it holds nothing that a string must escape. -/
abbrev PlainName (name : String) : Prop :=
  ArePlain name.toList

/-- A value is read back from every spelling of its name. -/
theorem Reader.choice_readsBack_spelled
    {α : Type}
    {values : List (String × α)}
    {text : List Char}
    {name : String}
    {value : α}
    (spells : Spells text name.toList)
    (named : values.lookup name = some value) :
    (Reader.choice values).ReadsBack ('"' :: (text ++ ['"'])) value := by
  intro blanks rest areBlank ends
  have start :
      skipBlanks (blanks ++ ('"' :: (text ++ ['"']) ++ rest)) = '"' :: (text ++ '"' :: rest) := by
    rw [List.cons_append, List.append_assoc, skipBlanks_append areBlank rfl]
    rfl
  simp only [Reader.choice, readChoice, start, if_true, readName, readString_spelled spells]
  simp [Except.bind, valueOfName, named]

/-- A value is read back from its name. -/
theorem Reader.choice_readsBack
    {α : Type}
    {values : List (String × α)}
    {name : String}
    {value : α}
    (plain : PlainName name)
    (named : values.lookup name = some value) :
    (Reader.choice values).ReadsBack (quotedName name) value :=
  choice_readsBack_spelled (spells_self plain) named

end Chip8.Json
