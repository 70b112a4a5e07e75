import Chip8.Proofs.Json.Layout

namespace Chip8.Json

/-!
# Every value can be passed over

A value of the grammar, however deeply nested, is passed over exactly up to its
end.  Each phrase of the grammar has its own law; the law of a bracket's items
holds below any brackets that are open around it.
-/

/-! ## Numbers -/

/-- Where no digit stands, none is passed over. -/
theorem skipDigits_of_noDigit
    {rest : List Char}
    (ends : startsWithDigit rest = false) :
    skipDigits rest = rest := by
  cases rest with
  | nil => rfl
  | cons c rest => exact List.dropWhile_cons_of_neg (Bool.eq_false_iff.mp ends)

/-- Digits are passed over up to the first character that is none. -/
theorem skipDigits_append
    {digits rest : List Char}
    (areDigits : ∀ c ∈ digits, c.isDigit = true)
    (ends : startsWithDigit rest = false) :
    skipDigits (digits ++ rest) = rest := by
  rw [skipDigits, List.dropWhile_append_of_pos areDigits]
  exact skipDigits_of_noDigit ends

/-- A text that starts with digits starts with a digit. -/
theorem AreDigits.startsWithDigit
    {digits : List Char}
    (areDigits : AreDigits digits)
    (rest : List Char) :
    startsWithDigit (digits ++ rest) = true := by
  obtain ⟨first, others, rfl⟩ := List.exists_cons_of_ne_nil areDigits.1
  exact areDigits.2 first List.mem_cons_self

/-- The sign of an exponent is passed over where digits follow. -/
theorem skipSign_append
    {sign text : List Char}
    (listed : sign ∈ [[], ['+'], ['-']])
    (starts : startsWithDigit text = true) :
    skipSign (sign ++ text) = text := by
  simp only [List.mem_cons, List.not_mem_nil, or_false] at listed
  obtain rfl | rfl | rfl := listed
  · rw [List.nil_append]
    fun_cases skipSign text with
    | case1 => cases starts
    | case2 => cases starts
    | case3 => rfl
  · rfl
  · rfl

/-- What ends a value is neither a fraction nor an exponent. -/
theorem skipAfterMantissa_of_endsValue
    {rest : List Char}
    (ends : EndsValue rest) :
    skipAfterMantissa rest = .ok rest := by
  have noMarks : ∀ c ∈ valueEnds, isExponentMark c = false := by
    simp [valueEnds, isExponentMark]
  cases rest with
  | nil => rfl
  | cons c rest => simp [skipAfterMantissa, noMarks c (ends c rfl)]

/-- An exponent does not start with a digit. -/
theorem IsExponent.noDigit
    {exponent rest : List Char}
    (isExponent : IsExponent exponent)
    (ends : EndsValue rest) :
    startsWithDigit (exponent ++ rest) = false := by
  have noDigits : ∀ mark ∈ ['e', 'E'], mark.isDigit = false := by
    simp [Char.isDigit]
  obtain rfl | ⟨mark, isMark, sign, _, digits, _, rfl⟩ := isExponent
  · exact startsWithDigit_of_endsValue ends
  · exact noDigits mark isMark

/-- An exponent is passed over up to what ends the number. -/
theorem IsExponent.skipped
    {exponent rest : List Char}
    (isExponent : IsExponent exponent)
    (ends : EndsValue rest) :
    skipAfterMantissa (exponent ++ rest) = .ok rest := by
  have areMarks : ∀ mark ∈ ['e', 'E'], isExponentMark mark = true := by
    simp [isExponentMark]
  obtain rfl | ⟨mark, isMark, sign, isSign, digits, areDigits, rfl⟩ := isExponent
  · exact skipAfterMantissa_of_endsValue ends
  · have starts := areDigits.startsWithDigit rest
    have behind := skipDigits_append areDigits.2 (startsWithDigit_of_endsValue ends)
    simp [skipAfterMantissa, areMarks mark isMark, skipExponent, skipSign_append isSign starts,
      starts, behind]

/-- A fraction does not start with a digit. -/
theorem IsFraction.noDigit
    {fraction exponent rest : List Char}
    (isFraction : IsFraction fraction)
    (isExponent : IsExponent exponent)
    (ends : EndsValue rest) :
    startsWithDigit (fraction ++ (exponent ++ rest)) = false := by
  obtain rfl | ⟨digits, _, rfl⟩ := isFraction
  · exact isExponent.noDigit ends
  · rfl

/-- Without a decimal point the mantissa is complete. -/
theorem skipAfterInteger_of_noPoint
    {text : List Char}
    (noPoint : text.head? ≠ some '.') :
    skipAfterInteger text = skipAfterMantissa text := by
  cases text with
  | nil => rfl
  | cons c rest =>
      have differs : c ≠ '.' := fun same => noPoint (congrArg some same)
      rw [skipAfterInteger, if_neg differs]

/-- An exponent does not start with a point. -/
theorem IsExponent.noPoint
    {exponent rest : List Char}
    (isExponent : IsExponent exponent)
    (ends : EndsValue rest) :
    (exponent ++ rest).head? ≠ some '.' := by
  have noMark : '.' ∉ ['e', 'E'] := by
    decide
  have noEnd : '.' ∉ valueEnds := by
    decide
  obtain rfl | ⟨mark, isMark, sign, _, digits, _, rfl⟩ := isExponent
  · exact fun point => noEnd (ends '.' point)
  · rintro ⟨⟩
    exact noMark isMark

/-- A fraction and an exponent are passed over up to what ends the number. -/
theorem IsFraction.skipped
    {fraction exponent rest : List Char}
    (isFraction : IsFraction fraction)
    (isExponent : IsExponent exponent)
    (ends : EndsValue rest) :
    skipAfterInteger (fraction ++ (exponent ++ rest)) = .ok rest := by
  have behind := isExponent.skipped ends
  obtain rfl | ⟨digits, areDigits, rfl⟩ := isFraction
  · exact (skipAfterInteger_of_noPoint (isExponent.noPoint ends)).trans behind
  · have starts := areDigits.startsWithDigit (exponent ++ rest)
    have fraction := skipDigits_append areDigits.2 (isExponent.noDigit ends)
    simp [skipAfterInteger, skipFraction, starts, fraction, behind]

/-- The whole part of a number is passed over up to what is no digit. -/
theorem IsWhole.skipped
    {whole behind : List Char}
    (isWhole : IsWhole whole)
    (ends : startsWithDigit behind = false) :
    skipNumber (whole ++ behind) = skipAfterInteger behind := by
  obtain rfl | ⟨⟨notEmpty, areDigits⟩, noZero⟩ := isWhole
  · simp [skipNumber, ends]
  · obtain ⟨first, digits, rfl⟩ := List.exists_cons_of_ne_nil notEmpty
    have differs : first ≠ '0' := fun same => noZero (congrArg some same)
    have others : ∀ c ∈ digits, c.isDigit = true :=
      fun c member => areDigits c (List.mem_cons_of_mem _ member)
    rw [List.cons_append, skipNumber, if_neg differs, if_pos (areDigits first List.mem_cons_self),
      skipDigits_append others ends]

/-- An integer part starts with a digit. -/
theorem IsWhole.starts
    {whole : List Char}
    (isWhole : IsWhole whole) :
    ∃ first digits, whole = first :: digits ∧ first.isDigit = true := by
  obtain rfl | ⟨⟨notEmpty, areDigits⟩, _⟩ := isWhole
  · exact ⟨'0', [], rfl, rfl⟩
  · obtain ⟨first, digits, rfl⟩ := List.exists_cons_of_ne_nil notEmpty
    exact ⟨first, digits, rfl, areDigits first List.mem_cons_self⟩

/-- A scalar that starts with a digit is a number. -/
theorem skipScalar_of_digit
    {c : Char}
    (digit : c.isDigit = true)
    (rest : List Char) :
    skipScalar (c :: rest) = skipNumber (c :: rest) := by
  have differs {letter : Char} (noDigit : letter.isDigit = false) : c ≠ letter :=
    ne_of_isDigit digit noDigit
  rw [skipScalar, if_neg (differs rfl), if_neg (differs rfl), if_neg (differs rfl),
    if_neg (differs rfl), if_neg (differs rfl), if_pos digit]

/-- A number is passed over as a scalar, up to what ends it. -/
theorem IsNumber.skipped
    {text rest : List Char}
    (isNumber : IsNumber text)
    (ends : EndsValue rest) :
    skipScalar (text ++ rest) = .ok rest := by
  obtain ⟨sign, isSign, whole, fraction, exponent, isWhole, isFraction, isExponent, rfl⟩ :=
    isNumber
  have number :
      skipNumber (whole ++ (fraction ++ (exponent ++ rest))) = .ok rest :=
    (isWhole.skipped (isFraction.noDigit isExponent ends)).trans
      (isFraction.skipped isExponent ends)
  obtain ⟨first, digits, shape, digit⟩ := isWhole.starts
  simp only [List.mem_cons, List.not_mem_nil, or_false] at isSign
  simp only [List.append_assoc]
  obtain rfl | rfl := isSign
  · rw [shape] at number ⊢
    exact (skipScalar_of_digit digit _).trans number
  · exact number

/-- A number that stands alone is passed over to the end. -/
theorem IsNumber.skipped_self
    {text : List Char}
    (isNumber : IsNumber text) :
    skipScalar text = .ok [] := by
  simpa using isNumber.skipped endsValue_nil

/-! ## Words -/

/-- A word is matched up to its end. -/
theorem skipWord_append
    (word rest : List Char) :
    skipWord word (word ++ rest) = .ok rest := by
  induction word with
  | nil => rfl
  | cons letter word inductionHypothesis =>
      rw [List.cons_append, skipWord, if_pos rfl]
      exact inductionHypothesis

/-- A word of the language is passed over as a scalar. -/
theorem skipScalar_word
    {word : List Char}
    (listed : word ∈ words)
    (rest : List Char) :
    skipScalar (word ++ rest) = .ok rest := by
  simp only [words, List.mem_cons, List.not_mem_nil, or_false] at listed
  obtain rfl | rfl | rfl := listed
  · exact skipWord_append ['u', 'l', 'l'] rest
  · exact skipWord_append ['r', 'u', 'e'] rest
  · exact skipWord_append ['a', 'l', 's', 'e'] rest

/-- A word that stands alone is passed over to the end. -/
theorem skipScalar_word_self
    {word : List Char}
    (listed : word ∈ words) :
    skipScalar word = .ok [] := by
  simpa using skipScalar_word listed []

/-! ## One step at a time -/

/-- A character at which a value may start: neither a blank nor a closing bracket. -/
def StartsValue (c : Char) : Prop :=
  isBlank c = false ∧ ∀ bracket : Bracket, c ≠ bracket.closing

/-- A value that is neither list nor object starts with none of their brackets. -/
theorem skipScalar_starts
    {c : Char}
    {rest behind : List Char}
    (scalar : skipScalar (c :: rest) = .ok behind) :
    StartsValue c ∧ ∀ bracket : Bracket, c ≠ bracket.opening := by
  have refused (d : Char) (noScalar : d ∈ [' ', '\t', '\n', '\r', '[', ']', '\x7b', '\x7d']) :
      c ≠ d := by
    rintro rfl
    simp only [List.mem_cons, List.not_mem_nil, or_false] at noScalar
    obtain rfl | rfl | rfl | rfl | rfl | rfl | rfl | rfl := noScalar <;> cases scalar
  refine ⟨⟨?_, ?_⟩, ?_⟩
  · simp [isBlank, refused]
  · rintro (_ | _) <;> exact refused _ (by decide)
  · rintro (_ | _) <;> exact refused _ (by decide)

/-- A scalar does not start with white space. -/
theorem skipBlanks_of_scalar
    {text behind : List Char}
    (scalar : skipScalar text = .ok behind) :
    skipBlanks text = text := by
  cases text with
  | nil => rfl
  | cons c rest => exact skipBlanks_cons_of_token (skipScalar_starts scalar).1.1 rest

variable {bracket : Bracket} {enclosing outer : List Bracket} {text rest : List Char}

/-- Before a value and below a bracket, blanks make no difference. -/
theorem skipFrom_value_of_skipBlanks
    {other : List Char}
    (same : skipBlanks text = skipBlanks other) :
    skipFrom .value enclosing text = skipFrom .value enclosing other := by
  rw [skipFrom, skipFrom, same]

/-- Inside a bracket, white space in front makes no difference to what is passed over. -/
theorem skipFrom_inside_of_skipBlanks
    {other : List Char}
    (same : skipBlanks text = skipBlanks other)
    (stage : Stage) :
    skipFrom stage (bracket :: outer) text = skipFrom stage (bracket :: outer) other := by
  cases stage with
  | value => exact skipFrom_value_of_skipBlanks same
  | member => rw [skipFrom, skipFrom, same]
  | firstItem => rw [skipFrom, skipFrom, same]
  | nextItem => rw [skipFrom, skipFrom, same]

/-- Behind a scalar in the place of a value the next item follows. -/
theorem skipFrom_value_scalar
    {behind : List Char}
    (start : skipBlanks text = rest)
    (scalar : skipScalar rest = .ok behind) :
    skipFrom .value enclosing text = skipFrom .nextItem enclosing behind := by
  rw [skipFrom, start]
  cases rest with
  | nil =>
      cases scalar
  | cons c rest =>
      obtain ⟨_, noBracket⟩ := skipScalar_starts scalar
      have noList : c ≠ '[' := noBracket .list
      have noObject : c ≠ '\x7b' := noBracket .object
      dsimp only
      rw [if_neg noList, if_neg noObject]
      split
      next same =>
        rw [scalar] at same
        cases same
        rfl
      next failed =>
        rw [scalar] at failed
        cases failed

/-- A bracket that opens in the place of a value waits for its first item. -/
theorem skipFrom_value_open
    (start : skipBlanks text = bracket.opening :: rest) :
    skipFrom .value enclosing text = skipFrom .firstItem (bracket :: enclosing) rest := by
  rw [skipFrom, start]
  cases bracket <;> rfl

/-- Behind the key of a member its value follows. -/
theorem skipFrom_member
    (key : skipKey (skipBlanks text) = .ok rest) :
    skipFrom .member enclosing text = skipFrom .value enclosing rest := by
  rw [skipFrom.eq_def]
  dsimp only
  split
  next same =>
    rw [key] at same
    cases same
    rfl
  next failed =>
    rw [key] at failed
    cases failed

/-- Where the bracket closes at once, the one around it goes on. -/
theorem skipFrom_firstItem_closed
    (start : skipBlanks text = bracket.closing :: rest) :
    skipFrom .firstItem (bracket :: outer) text = skipFrom .nextItem outer rest := by
  rw [skipFrom, start]
  dsimp only
  rw [if_pos rfl]

/-- Where the bracket does not close at once, its first item follows. -/
theorem skipFrom_firstItem_more
    {c : Char}
    (start : skipBlanks text = c :: rest)
    (differs : c ≠ bracket.closing) :
    skipFrom .firstItem (bracket :: outer) text =
      skipFrom (.item bracket) (bracket :: outer) text := by
  have same : skipBlanks (c :: rest) = skipBlanks text := by
    rw [← start, skipBlanks_skipBlanks]
  rw [skipFrom, start]
  dsimp only
  rw [if_neg differs]
  exact skipFrom_inside_of_skipBlanks same _

/-- Where the bracket closes behind an item, the one around it goes on. -/
theorem skipFrom_nextItem_closed
    (start : skipBlanks text = bracket.closing :: rest) :
    skipFrom .nextItem (bracket :: outer) text = skipFrom .nextItem outer rest := by
  rw [skipFrom, start]
  dsimp only
  rw [if_pos rfl]

/-- Behind a comma another item follows. -/
theorem skipFrom_nextItem_comma
    (bracket : Bracket)
    (outer : List Bracket)
    (rest : List Char) :
    skipFrom .nextItem (bracket :: outer) (',' :: rest) =
      skipFrom (.item bracket) (bracket :: outer) rest := by
  have differs : ',' ≠ bracket.closing := by
    cases bracket <;> decide
  rw [skipFrom, skipBlanks_cons_of_token rfl]
  dsimp only
  rw [if_neg differs, if_pos rfl]

/-- When no bracket is open, all is passed over. -/
theorem skipFrom_done
    (text : List Char) :
    skipFrom .nextItem [] text = .ok text := by
  rw [skipFrom]

/-! ## Phrases -/

/-- A quote starts a value. -/
theorem startsValue_quote : StartsValue '"' := by
  refine ⟨rfl, ?_⟩
  rintro (_ | _) <;> decide

/-- An opening bracket starts a value. -/
theorem startsValue_opening
    (bracket : Bracket) :
    StartsValue bracket.opening := by
  refine ⟨?_, ?_⟩
  · cases bracket <;> rfl
  · cases bracket <;> rintro (_ | _) <;> decide

/-- No white space stands before an opening bracket that comes first. -/
theorem skipBlanks_opening
    (bracket : Bracket)
    (rest : List Char) :
    skipBlanks (bracket.opening :: rest) = bracket.opening :: rest := by
  exact skipBlanks_cons_of_token (startsValue_opening bracket).1 rest

/-- No white space stands before a closing bracket that comes first. -/
theorem skipBlanks_closing
    (bracket : Bracket)
    (rest : List Char) :
    skipBlanks (bracket.closing :: rest) = bracket.closing :: rest := by
  cases bracket <;> exact skipBlanks_cons_of_token rfl rest

/-- A scalar starts a value. -/
theorem starts_of_scalar
    (scalar : skipScalar text = .ok rest) :
    ∃ c rest, skipBlanks text = c :: rest ∧ StartsValue c := by
  cases text with
  | nil => cases scalar
  | cons c rest => exact ⟨c, rest, skipBlanks_of_scalar scalar, (skipScalar_starts scalar).1⟩

/-- A phrase starts, behind any blanks, at a character that closes no bracket. -/
theorem Phrase.Matches.starts
    {phrase : Phrase}
    (isPhrase : phrase.Matches text) :
    ∃ c rest, skipBlanks text = c :: rest ∧ StartsValue c := by
  have opens (bracket : Bracket) (rest : List Char) :
      ∃ c behind, skipBlanks (bracket.opening :: rest) = c :: behind ∧ StartsValue c :=
    ⟨_, rest, skipBlanks_opening bracket rest, startsValue_opening bracket⟩
  induction isPhrase with
  | word listed =>
      exact starts_of_scalar (skipScalar_word_self listed)
  | number isNumber =>
      exact starts_of_scalar isNumber.skipped_self
  | string =>
      exact ⟨'"', _, skipBlanks_cons_of_token rfl _, startsValue_quote⟩
  | empty bracket =>
      exact opens bracket _
  | @filled bracket =>
      exact opens bracket _
  | element before after _ inductionHypothesis =>
      obtain ⟨c, rest, start, starts⟩ := inductionHypothesis
      rw [skipBlanks_blanks]
      exact ⟨c, _, skipBlanks_append_of_start start after.text, starts⟩
  | member beforeKey =>
      rw [skipBlanks_blanks]
      exact ⟨'"', _, skipBlanks_cons_of_token rfl _, startsValue_quote⟩
  | last _ inductionHypothesis =>
      exact inductionHypothesis
  | further _ _ inductionHypothesis =>
      obtain ⟨c, rest, start, starts⟩ := inductionHypothesis
      exact ⟨c, _, skipBlanks_append_of_start start _, starts⟩

/-- What passing over a phrase means for each kind of phrase. -/
def Phrase.IsSkipped
    (text : List Char) :
    Phrase → Prop
  | .value =>
      ∀ (enclosing : List Bracket) (rest : List Char),
        EndsValue rest →
        skipFrom .value enclosing (text ++ rest) = skipFrom .nextItem enclosing rest
  | .item bracket =>
      ∀ (outer : List Bracket) (rest : List Char),
        EndsValue rest →
        skipFrom (.item bracket) (bracket :: outer) (text ++ rest) =
          skipFrom .nextItem (bracket :: outer) rest
  | .items bracket =>
      ∀ (outer : List Bracket) (rest : List Char),
        skipFrom (.item bracket) (bracket :: outer) (text ++ bracket.closing :: rest) =
          skipFrom .nextItem outer rest

/-- A colon is matched behind white space. -/
theorem skipColon_append
    (blanks : Blanks)
    (rest : List Char) :
    skipColon (blanks.text ++ ':' :: rest) = .ok rest := by
  rw [skipColon, skipBlanks_blanks, skipBlanks_cons_of_token rfl]
  rfl

/-- A key with its colon is passed over. -/
theorem skipKey_of_colon
    {behind : List Char}
    (string : skipString text = .ok behind)
    (colon : skipColon behind = .ok rest) :
    skipKey ('"' :: text) = .ok rest := by
  rw [skipKey, if_pos rfl, string]
  exact colon

/-- A value with blanks around it is passed over below a bracket. -/
theorem skipFrom_padded
    {value : List Char}
    (skips : Phrase.IsSkipped value .value)
    (before after : Blanks)
    (ends : EndsValue rest) :
    skipFrom .value (bracket :: outer) (before.text ++ (value ++ (after.text ++ rest))) =
      skipFrom .nextItem (bracket :: outer) rest := by
  calc
    _ = skipFrom .value (bracket :: outer) (value ++ (after.text ++ rest)) :=
      skipFrom_value_of_skipBlanks (skipBlanks_blanks before _)
    _ = skipFrom .nextItem (bracket :: outer) (after.text ++ rest) :=
      skips _ _ (ends.behind_blanks after)
    _ = skipFrom .nextItem (bracket :: outer) rest :=
      skipFrom_inside_of_skipBlanks (skipBlanks_blanks after rest) .nextItem

/-- Every phrase of the grammar is passed over up to its end. -/
theorem Phrase.Matches.isSkipped
    {phrase : Phrase}
    (isPhrase : phrase.Matches text) :
    phrase.IsSkipped text := by
  -- The brackets around a phrase stay general, so the law of the items of a
  -- bracket also covers the items of the brackets inside it.
  induction isPhrase with
  | word listed =>
      intro enclosing rest ends
      have scalar := skipScalar_word listed rest
      exact skipFrom_value_scalar (skipBlanks_of_scalar scalar) scalar
  | number isNumber =>
      intro enclosing rest ends
      have scalar := isNumber.skipped ends
      exact skipFrom_value_scalar (skipBlanks_of_scalar scalar) scalar
  | @string text isString =>
      intro enclosing rest ends
      have scalar : skipScalar ('"' :: ((text ++ ['"']) ++ rest)) = .ok rest := by
        rw [List.append_assoc]
        exact isString.skipped rest
      exact skipFrom_value_scalar (skipBlanks_of_scalar scalar) scalar
  | empty bracket blanks =>
      intro enclosing rest ends
      have close :
          skipBlanks ((blanks.text ++ [bracket.closing]) ++ rest) = bracket.closing :: rest := by
        rw [List.append_assoc, skipBlanks_blanks]
        exact skipBlanks_closing bracket rest
      exact (skipFrom_value_open (skipBlanks_opening bracket _)).trans
        (skipFrom_firstItem_closed close)
  | @filled bracket items inside inductionHypothesis =>
      intro enclosing rest ends
      obtain ⟨c, tail, start, starts⟩ := inside.starts
      have more := skipBlanks_append_of_start start (bracket.closing :: rest)
      have shape : (items ++ [bracket.closing]) ++ rest = items ++ bracket.closing :: rest :=
        List.append_assoc items [bracket.closing] rest
      rw [List.cons_append, shape]
      calc
        _ = skipFrom .firstItem (bracket :: enclosing) (items ++ bracket.closing :: rest) :=
          skipFrom_value_open (skipBlanks_opening bracket _)
        _ = skipFrom (.item bracket) (bracket :: enclosing) (items ++ bracket.closing :: rest) :=
          skipFrom_firstItem_more more (starts.2 bracket)
        _ = skipFrom .nextItem enclosing rest :=
          inductionHypothesis enclosing rest
  | element before after isValue inductionHypothesis =>
      intro outer rest ends
      rw [List.append_assoc, List.append_assoc]
      exact skipFrom_padded inductionHypothesis before after ends
  | member beforeKey afterKey beforeValue afterValue isString isValue inductionHypothesis =>
      intro outer rest ends
      simp only [List.append_assoc, List.cons_append]
      refine (skipFrom_member ?_).trans
        (skipFrom_padded inductionHypothesis beforeValue afterValue ends)
      rw [skipBlanks_blanks, skipBlanks_cons_of_token rfl]
      exact skipKey_of_colon (isString.skipped _) (skipColon_append afterKey _)
  | last isItem inductionHypothesis =>
      intro outer rest
      refine (inductionHypothesis outer _ (endsValue_closing _ rest)).trans ?_
      exact skipFrom_nextItem_closed (skipBlanks_closing _ rest)
  | @further bracket item items isItem areItems first later =>
      intro outer rest
      rw [List.append_assoc]
      calc
        _ = skipFrom .nextItem (bracket :: outer) (',' :: (items ++ bracket.closing :: rest)) :=
          first outer _ (endsValue_comma _)
        _ = skipFrom (.item bracket) (bracket :: outer) (items ++ bracket.closing :: rest) :=
          skipFrom_nextItem_comma bracket outer _
        _ = skipFrom .nextItem outer rest :=
          later outer rest

/-- A value is passed over up to its end. -/
theorem skipValue_of_isValue
    (isValue : IsValue text)
    (before : Blanks)
    (ends : EndsValue rest) :
    skipValue (before.text ++ (text ++ rest)) = .ok rest := by
  calc
    _ = skipFrom .value [] (text ++ rest) :=
      skipFrom_value_of_skipBlanks (skipBlanks_blanks before _)
    _ = skipFrom .nextItem [] rest :=
      isValue.isSkipped [] rest ends
    _ = .ok rest :=
      skipFrom_done rest

end Chip8.Json
