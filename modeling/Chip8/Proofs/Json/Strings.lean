import Chip8.Proofs.Json.Grammar

namespace Chip8.Json

/-!
# Strings read and passed over

A string is read as the text that it spells, and every string is passed over up
to its closing quote.  A string that is read could as well have been passed
over: both ways end at the same place, also behind a pair of surrogates, which
is read as one escape and passed over as two.
-/

/-! ## Escapes -/

/-- Four digits are read as one hexadecimal numeral. -/
theorem fourDigits?_eq
    (a b c d : Char) :
    fourDigits? a b c d = Hex.valueFrom? 0 [a, b, c, d] := by
  simp only [fourDigits?, Hex.valueFrom?]
  cases Hex.digitValue? a <;> cases Hex.digitValue? b <;> cases Hex.digitValue? c <;>
    cases Hex.digitValue? d <;> simp

/-- The digits of a unit are read as its number. -/
theorem IsUnit.read
    {digits : List Char}
    {unit : Nat}
    (isUnit : IsUnit digits unit)
    (rest : List Char) :
    readFourDigits (digits ++ rest) = .ok (unit, rest) := by
  obtain ⟨four, denotes⟩ := isUnit
  obtain ⟨a, b, c, d, rfl⟩ := List.length_eq_four.mp four
  have value : fourDigits? a b c d = some unit := by
    rw [fourDigits?_eq]
    exact Hex.valueFrom?_eq_some_iff.mpr ⟨unit, denotes, by simp⟩
  simp [readFourDigits, value]

/-- The letter of a short escape stands for its character, and is not the one for code points. -/
theorem escapedChar?_of_listed
    {letter c : Char}
    (listed : (letter, c) ∈ shortEscapes) :
    letter ≠ 'u' ∧ escapedChar? letter = some c := by
  have each : ∀ entry ∈ shortEscapes, entry.1 ≠ 'u' ∧ escapedChar? entry.1 = some entry.2 := by
    decide
  exact each (letter, c) listed

/-! ## Passing over -/

/-- A short escape is passed over. -/
theorem skipEscape_short
    {letter c : Char}
    (listed : (letter, c) ∈ shortEscapes)
    (rest : List Char) :
    skipEscape (letter :: rest) = .ok rest := by
  obtain ⟨noUnit, escaped⟩ := escapedChar?_of_listed listed
  simp [skipEscape, noUnit, escaped]

/-- The escape of a unit is passed over, also where it is half of a pair. -/
theorem skipEscape_unit
    {digits : List Char}
    {unit : Nat}
    (isUnit : IsUnit digits unit)
    (rest : List Char) :
    skipEscape ('u' :: (digits ++ rest)) = .ok rest := by
  simp [skipEscape, isUnit.read]

/-- An escape in a string is passed over, and the string goes on behind it. -/
theorem skipString_escape
    {text rest : List Char}
    (escape : skipEscape text = .ok rest) :
    skipString ('\\' :: text) = skipString rest := by
  rw [skipString, if_neg (by decide), if_pos rfl]
  split
  next same =>
    rw [escape] at same
    cases same
    rfl
  next failed =>
    rw [escape] at failed
    cases failed

/-- A plain character in a string is passed over, and the string goes on behind it. -/
theorem skipString_plain
    {c : Char}
    (isPlain : IsPlain c)
    (rest : List Char) :
    skipString (c :: rest) = skipString rest := by
  obtain ⟨noQuote, noEscape, noControl⟩ := isPlain
  rw [skipString, if_neg noQuote, if_neg noEscape, noControl]
  rfl

/-- A string is passed over up to behind its closing quote. -/
theorem IsString.skipped
    {text : List Char}
    (isString : IsString text)
    (rest : List Char) :
    skipString (text ++ '"' :: rest) = .ok rest := by
  induction isString with
  | nil =>
      rw [List.nil_append, skipString]
      rfl
  | plain isPlain _ inductionHypothesis =>
      exact (skipString_plain isPlain _).trans inductionHypothesis
  | short listed _ inductionHypothesis =>
      exact (skipString_escape (skipEscape_short listed _)).trans inductionHypothesis
  | unit isUnit _ inductionHypothesis =>
      rw [List.cons_append, List.cons_append, List.append_assoc]
      exact (skipString_escape (skipEscape_unit isUnit _)).trans inductionHypothesis

/-! ## Reading -/

/-- An escape in a string adds its character, and the string goes on behind it. -/
theorem readStringFrom_escape
    {text rest : List Char}
    {c : Char}
    (escape : readEscape text = .ok (c, rest))
    (taken : List Char) :
    readStringFrom taken ('\\' :: text) = readStringFrom (c :: taken) rest := by
  rw [readStringFrom, if_neg (by decide), if_pos rfl]
  split
  next same =>
    rw [escape] at same
    cases same
    rfl
  next failed =>
    rw [escape] at failed
    cases failed

/-- A plain character in a string adds itself, and the string goes on behind it. -/
theorem readStringFrom_plain
    {c : Char}
    (isPlain : IsPlain c)
    (taken rest : List Char) :
    readStringFrom taken (c :: rest) = readStringFrom (c :: taken) rest := by
  obtain ⟨noQuote, noEscape, noControl⟩ := isPlain
  rw [readStringFrom, if_neg noQuote, if_neg noEscape, noControl]
  rfl

/-- A short escape is read as its character. -/
theorem readEscape_short
    {letter c : Char}
    (listed : (letter, c) ∈ shortEscapes)
    (rest : List Char) :
    readEscape (letter :: rest) = .ok (c, rest) := by
  obtain ⟨noUnit, escaped⟩ := escapedChar?_of_listed listed
  simp [readEscape, noUnit, escaped]

/-- The number of a character is no surrogate. -/
theorem noSurrogate
    (c : Char) :
    isLowSurrogate c.toNat = false ∧ isHighSurrogate c.toNat = false := by
  have valid : c.toNat < 0xD800 ∨ 0xDFFF < c.toNat ∧ c.toNat < 0x110000 :=
    c.valid
  simp only [isLowSurrogate, isHighSurrogate, decide_eq_false_iff_not]
  omega

/-- The escape of a unit is read as the character with this number. -/
theorem readEscape_unit
    {digits : List Char}
    {c : Char}
    (isUnit : IsUnit digits c.toNat)
    (rest : List Char) :
    readEscape ('u' :: (digits ++ rest)) = .ok (c, rest) := by
  obtain ⟨noLow, noHigh⟩ := noSurrogate c
  simp [readEscape, readUnicodeEscape, isUnit.read, noLow, noHigh]

/-- The escapes of a surrogate pair are read as the character that the pair stands for. -/
theorem readEscape_pair
    {highDigits lowDigits : List Char}
    {high low : Nat}
    {c : Char}
    (isHigh : IsUnit highDigits (0xD800 + high))
    (isLow : IsUnit lowDigits (0xDC00 + low))
    (highFits : high < 0x400)
    (lowFits : low < 0x400)
    (paired : c.toNat = 0x10000 + high * 0x400 + low)
    (rest : List Char) :
    readEscape ('u' :: (highDigits ++ '\\' :: 'u' :: (lowDigits ++ rest))) = .ok (c, rest) := by
  have first : isLowSurrogate (0xD800 + high) = false ∧ isHighSurrogate (0xD800 + high) = true := by
    simp only [isLowSurrogate, isHighSurrogate, decide_eq_false_iff_not, decide_eq_true_eq]
    omega
  have second : isLowSurrogate (0xDC00 + low) = true := by
    simp only [isLowSurrogate, decide_eq_true_eq]
    omega
  have joined : pairedChar (0xD800 + high) (0xDC00 + low) = c := by
    rw [pairedChar, Nat.add_sub_cancel_left, Nat.add_sub_cancel_left, ← paired, Char.ofNat_toNat]
  simp [readEscape, readUnicodeEscape, isHigh.read, first, readSecondEscape, readLowSurrogate,
    isLow.read, second, joined]

/-- A text that spells characters is read as them. -/
theorem Spells.read
    {text spelled : List Char}
    (spells : Spells text spelled)
    (taken rest : List Char) :
    readStringFrom taken (text ++ '"' :: rest) =
      .ok (String.ofList (taken.reverse ++ spelled), rest) := by
  have further (taken : List Char) (c : Char) (spelled : List Char) :
      (c :: taken).reverse ++ spelled = taken.reverse ++ c :: spelled := by
    rw [List.reverse_cons, List.append_assoc]
    rfl
  induction spells generalizing taken with
  | nil =>
      rw [List.nil_append, List.append_nil, readStringFrom]
      rfl
  | plain isPlain _ inductionHypothesis =>
      rw [List.cons_append, readStringFrom_plain isPlain, inductionHypothesis, further]
  | short listed _ inductionHypothesis =>
      have escape := readEscape_short listed
      rw [List.cons_append, List.cons_append, readStringFrom_escape (escape _),
        inductionHypothesis, further]
  | unit isUnit _ inductionHypothesis =>
      have escape := readEscape_unit isUnit
      rw [List.cons_append, List.cons_append, List.append_assoc, readStringFrom_escape (escape _),
        inductionHypothesis, further]
  | pair isHigh isLow highFits lowFits paired _ inductionHypothesis =>
      have escape := readEscape_pair isHigh isLow highFits lowFits paired
      rw [List.cons_append, List.cons_append, List.append_assoc, List.cons_append, List.cons_append,
        List.append_assoc, readStringFrom_escape (escape _), inductionHypothesis, further]

/-- A string is read as the text that it spells. -/
theorem readString_spelled
    {text : List Char}
    {name : String}
    (spells : Spells text name.toList)
    (rest : List Char) :
    readString (text ++ '"' :: rest) = .ok (name, rest) := by
  rw [readString, spells.read, List.reverse_nil, List.nil_append, String.ofList_toList]

/-! ## Agreement -/

/-- An escape whose digits are read is passed over up to the same place. -/
theorem skipEscape_of_fourDigits
    {text rest : List Char}
    {unit : Nat}
    (digits : readFourDigits text = .ok (unit, rest)) :
    skipEscape ('u' :: text) = .ok rest := by
  simp [skipEscape, digits]

/-- The second half of a pair is an escape of four digits. -/
theorem readSecondEscape_eq_ok
    {high : Nat}
    {text rest : List Char}
    {c : Char}
    (read : readSecondEscape high text = .ok (c, rest)) :
    ∃ behind low, text = '\\' :: 'u' :: behind ∧ readFourDigits behind = .ok (low, rest) := by
  unfold readSecondEscape readLowSurrogate at read
  grind

/-- An escape that is read is passed over, a pair of surrogates as two escapes. -/
theorem skipString_of_readEscape
    {text rest : List Char}
    {c : Char}
    (read : readEscape text = .ok (c, rest)) :
    skipString ('\\' :: text) = skipString rest := by
  unfold readEscape at read
  split at read
  next =>
    cases read
  next letter behind =>
    split at read
    next isUnit =>
      subst isUnit
      unfold readUnicodeEscape at read
      split at read
      next unit after digits =>
        have first := skipString_escape (skipEscape_of_fourDigits digits)
        split at read
        next =>
          cases read
        next =>
          split at read
          next =>
            obtain ⟨low, last, rfl, lowDigits⟩ := readSecondEscape_eq_ok read
            exact first.trans (skipString_escape (skipEscape_of_fourDigits lowDigits))
          next =>
            cases read
            exact first
      next =>
        cases read
    next noUnit =>
      split at read
      next escaped short =>
        cases read
        exact skipString_escape (by simp [skipEscape, noUnit, short])
      next =>
        cases read

/-- A string that is read is also passed over, up to the same place. -/
theorem skipString_of_readStringFrom
    {taken text rest : List Char}
    {value : String}
    (read : readStringFrom taken text = .ok (value, rest)) :
    skipString text = .ok rest := by
  fun_induction readStringFrom taken text with
  | case1 => cases read
  | case2 =>
      cases read
      rw [skipString]
      rfl
  | case3 taken text escaped behind escape noQuote inductionHypothesis =>
      exact (skipString_of_readEscape escape).trans (inductionHypothesis read)
  | case4 => cases read
  | case5 => cases read
  | case6 taken c text noQuote noEscape noControl inductionHypothesis =>
      have isPlain : IsPlain c :=
        ⟨noQuote, noEscape, Bool.eq_false_iff.mpr noControl⟩
      exact (skipString_plain isPlain text).trans (inductionHypothesis read)

/-- A string that is read could have been passed over. -/
theorem skipString_of_readString
    {text rest : List Char}
    {value : String}
    (read : readString text = .ok (value, rest)) :
    skipString text = .ok rest :=
  skipString_of_readStringFrom read

end Chip8.Json
