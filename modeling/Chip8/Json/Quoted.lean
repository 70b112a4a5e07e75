import Chip8.Json.Problem
import Chip8.Text

namespace Chip8.Json

/-!
# Strings

Reading a string behind its opening quote.  A string that is kept must be
proper text, so surrogates have to come in pairs; a string that is only passed
over may hold single ones.  Both readers consume at least the closing quote.
-/

/-- The number made by four hexadecimal digits. -/
def fourDigits?
    (a b c d : Char) :
    Option Nat := do
  let a ← Hex.digitValue? a
  let b ← Hex.digitValue? b
  let c ← Hex.digitValue? c
  let d ← Hex.digitValue? d
  some (((a * 16 + b) * 16 + c) * 16 + d)

/-- Why four bytes are not four hexadecimal digits. -/
def fourDigitsProblem (text : List Char) : Problem :=
  if byteSize text < 4 then
    ⟨.unfinishedString, 0⟩
  else
    ⟨.invalidEscape, byteSize text - 4⟩

/-- The number of a `\u` escape behind the letter. -/
def readFourDigits
    (text : List Char) :
    Except Problem (Nat × List Char) :=
  match text with
  | a :: b :: c :: d :: rest =>
      match fourDigits? a b c d with
      | some n => .ok (n, rest)
      | none => .error (fourDigitsProblem text)
  | _ => .error (fourDigitsProblem text)

/-- Whether a number is the first half of a surrogate pair. -/
def isHighSurrogate (n : Nat) : Bool :=
  decide (0xD800 ≤ n ∧ n ≤ 0xDBFF)

/-- Whether a number is the second half of a surrogate pair. -/
def isLowSurrogate (n : Nat) : Bool :=
  decide (0xDC00 ≤ n ∧ n ≤ 0xDFFF)

/-- The character that a surrogate pair stands for. -/
def pairedChar
    (high low : Nat) :
    Char :=
  Char.ofNat (0x10000 + (high - 0xD800) * 0x400 + (low - 0xDC00))

/-- The second half of a surrogate pair behind its backslash. -/
def readLowSurrogate
    (high : Nat) :
    List Char → Except Problem (Char × List Char)
  | [] => .error (.before .unfinishedString [])
  | c :: rest =>
      if c = 'u' then
        match readFourDigits rest with
        | .ok (low, rest) =>
            if isLowSurrogate low then
              .ok (pairedChar high low, rest)
            else
              .error (.before .loneSurrogate rest)
        | .error problem => .error problem
      else
        .error (.within .unfinishedSurrogate (c :: rest))

/-- The character of a surrogate pair whose first half was read. -/
def readSecondEscape
    (high : Nat) :
    List Char → Except Problem (Char × List Char)
  | [] => .error (.before .unfinishedString [])
  | c :: rest =>
      if c = '\\' then
        readLowSurrogate high rest
      else
        .error (.within .unfinishedSurrogate (c :: rest))

/-- The character of a `\u` escape behind the letter. -/
def readUnicodeEscape
    (text : List Char) :
    Except Problem (Char × List Char) :=
  match readFourDigits text with
  | .ok (n, rest) =>
      if isLowSurrogate n then
        .error (.before .loneSurrogate rest)
      else if isHighSurrogate n then
        readSecondEscape n rest
      else
        .ok (Char.ofNat n, rest)
  | .error problem => .error problem

/-- The character that a one-letter escape stands for. -/
def escapedChar? : Char → Option Char
  | '"' => some '"'
  | '\\' => some '\\'
  | '/' => some '/'
  | 'b' => some '\x08'
  | 'f' => some '\x0c'
  | 'n' => some '\n'
  | 'r' => some '\r'
  | 't' => some '\t'
  | _ => none

/-- The character of an escape behind the backslash. -/
def readEscape : List Char → Except Problem (Char × List Char)
  | [] => .error (.before .unfinishedString [])
  | c :: rest =>
      if c = 'u' then
        readUnicodeEscape rest
      else
        match escapedChar? c with
        | some escaped => .ok (escaped, rest)
        | none => .error (.within .invalidEscape (c :: rest))

/-- Pass over an escape behind the backslash. -/
def skipEscape : List Char → Except Problem (List Char)
  | [] => .error (.before .unfinishedString [])
  | c :: rest =>
      if c = 'u' then
        match readFourDigits rest with
        | .ok (_, rest) => .ok rest
        | .error problem => .error problem
      else
        match escapedChar? c with
        | some _ => .ok rest
        | none => .error (.within .invalidEscape (c :: rest))

/-- Whether a character must not stand in a string as it is. -/
def isControl (c : Char) : Bool :=
  decide (c.toNat < 0x20)

/-- Four digits are read off the text. -/
theorem readFourDigits_consumes
    {text rest : List Char}
    {n : Nat}
    (read : readFourDigits text = .ok (n, rest)) :
    rest.length < text.length := by
  unfold readFourDigits at read
  split at read
  · split at read
    · cases read
      simp only [List.length_cons]
      omega
    · cases read
  · cases read

/-- The second half of a surrogate pair is read off the text. -/
theorem readLowSurrogate_consumes
    {high : Nat}
    {text rest : List Char}
    {c : Char}
    (read : readLowSurrogate high text = .ok (c, rest)) :
    rest.length < text.length := by
  unfold readLowSurrogate at read
  split at read
  · cases read
  · split at read
    · split at read
      · rename_i digits
        split at read
        · simp only [Except.ok.injEq, Prod.mk.injEq] at read
          obtain ⟨_, rfl⟩ := read
          have shorter := readFourDigits_consumes digits
          simp only [List.length_cons]
          omega
        · cases read
      · cases read
    · cases read

/-- The second escape of a surrogate pair is read off the text. -/
theorem readSecondEscape_consumes
    {high : Nat}
    {text rest : List Char}
    {c : Char}
    (read : readSecondEscape high text = .ok (c, rest)) :
    rest.length < text.length := by
  unfold readSecondEscape at read
  split at read
  · cases read
  · split at read
    · have shorter := readLowSurrogate_consumes read
      simp only [List.length_cons]
      omega
    · cases read

/-- An escape by code point is read off the text, whether it is one escape or a pair. -/
theorem readUnicodeEscape_consumes
    {text rest : List Char}
    {c : Char}
    (read : readUnicodeEscape text = .ok (c, rest)) :
    rest.length < text.length := by
  unfold readUnicodeEscape at read
  split at read
  · rename_i digits
    have shorter := readFourDigits_consumes digits
    split at read
    · cases read
    · split at read
      · have second := readSecondEscape_consumes read
        omega
      · cases read
        exact shorter
  · cases read

/-- An escape has a letter behind its backslash, so reading one makes the text shorter. -/
theorem readEscape_consumes
    {text rest : List Char}
    {c : Char}
    (read : readEscape text = .ok (c, rest)) :
    rest.length < text.length := by
  unfold readEscape at read
  split at read
  · cases read
  · split at read
    · have shorter := readUnicodeEscape_consumes read
      simp only [List.length_cons]
      omega
    · split at read
      · cases read
        simp
      · cases read

/-- An escape has a letter behind its backslash, so passing over one makes the text shorter. -/
theorem skipEscape_consumes
    {text rest : List Char}
    (read : skipEscape text = .ok rest) :
    rest.length < text.length := by
  unfold skipEscape at read
  split at read
  · cases read
  · split at read
    · split at read
      · rename_i digits
        cases read
        have shorter := readFourDigits_consumes digits
        simp only [List.length_cons]
        omega
      · cases read
    · split at read
      · cases read
        simp
      · cases read

/-- Read a string behind its opening quote, given the characters before, the latest first. -/
def readStringFrom
    (taken : List Char) :
    List Char → Except Problem (String × List Char)
  | [] => .error (.before .unfinishedString [])
  | c :: rest =>
      if c = '"' then
        .ok (String.ofList taken.reverse, rest)
      else if c = '\\' then
        match _escape : readEscape rest with
        | .ok (escaped, rest') => readStringFrom (escaped :: taken) rest'
        | .error problem => .error problem
      else if isControl c then
        .error (.before .controlCharacter rest)
      else
        readStringFrom (c :: taken) rest
  termination_by text => text.length
  decreasing_by
    · have shorter := readEscape_consumes _escape
      simp only [List.length_cons]
      omega
    · simp

/-- Read a string behind its opening quote. -/
def readString
    (text : List Char) :
    Except Problem (String × List Char) :=
  readStringFrom [] text

/-- Pass over a string behind its opening quote. -/
def skipString : List Char → Except Problem (List Char)
  | [] => .error (.before .unfinishedString [])
  | c :: rest =>
      if c = '"' then
        .ok rest
      else if c = '\\' then
        match _escape : skipEscape rest with
        | .ok rest' => skipString rest'
        | .error problem => .error problem
      else if isControl c then
        .error (.before .controlCharacter (c :: rest))
      else
        skipString rest
  termination_by text => text.length
  decreasing_by
    · have shorter := skipEscape_consumes _escape
      simp only [List.length_cons]
      omega
    · simp

/-- A string ends with a quote, so reading on in one makes the text shorter. -/
theorem readStringFrom_consumes
    (taken text : List Char)
    {value : String}
    {rest : List Char}
    (read : readStringFrom taken text = .ok (value, rest)) :
    rest.length < text.length := by
  fun_induction readStringFrom taken text with
  | case1 => cases read
  | case2 => cases read; simp
  | case3 taken text escaped after escape notQuote inductionHypothesis =>
      have first := readEscape_consumes escape
      have second := inductionHypothesis read
      simp only [List.length_cons]
      omega
  | case4 => cases read
  | case5 => cases read
  | case6 taken c text notQuote notEscape plain inductionHypothesis =>
      have shorter := inductionHypothesis read
      simp only [List.length_cons]
      omega

/-- Reading a string makes the text shorter. -/
theorem readString_consumes
    {text rest : List Char}
    {value : String}
    (read : readString text = .ok (value, rest)) :
    rest.length < text.length :=
  readStringFrom_consumes [] text read

/-- Passing over a string makes the text shorter. -/
theorem skipString_consumes
    {text rest : List Char}
    (read : skipString text = .ok rest) :
    rest.length < text.length := by
  fun_induction skipString text with
  | case1 => cases read
  | case2 => cases read; simp
  | case3 text after escape notQuote inductionHypothesis =>
      have first := skipEscape_consumes escape
      have second := inductionHypothesis read
      simp only [List.length_cons]
      omega
  | case4 => cases read
  | case5 => cases read
  | case6 c text notQuote notEscape plain inductionHypothesis =>
      have shorter := inductionHypothesis read
      simp only [List.length_cons]
      omega

end Chip8.Json
