import Chip8.Proofs.Json.Skipping

namespace Chip8.Json

/-!
# Reading and passing over agree

Whatever a reader takes from a text could as well have been passed over, and
both end at the same place.  So a value of the grammar is read up to its own end
or not at all, whatever its reader makes of it.
-/

/-! ## Numbers -/

variable {positive : Bool} {significand dropped : Nat} {exponent : Int} {number : Number}
  {text rest : List Char}

/-- The digits that are left when no more fit are passed over like those before. -/
theorem skipDigits_takeDigits
    (limit value count : Nat)
    (text : List Char) :
    skipDigits (takeDigits limit value count text).rest = skipDigits text := by
  fun_induction takeDigits limit value count text with
  | case1 => rfl
  | case2 value count c rest fits inductionHypothesis =>
      exact inductionHypothesis.trans (List.dropWhile_cons_of_pos fits.1).symm
  | case3 => rfl

/-- Scaling a significand leaves the text as it is. -/
theorem ofParts_rest
    (read : ofParts positive significand exponent text = .ok (number, rest)) :
    rest = text := by
  unfold ofParts at read
  grind

/-- Behind an exponent that is too long to be read all its digits are passed over. -/
theorem ofHugeExponent_rest
    {negative : Bool}
    (read : ofHugeExponent positive significand negative text = .ok (number, rest)) :
    rest = skipDigits text := by
  unfold ofHugeExponent at read
  grind

/-- An exponent that is read is also passed over, up to the same place. -/
theorem skipExponent_of_read
    (read : readExponent positive significand exponent text = .ok (number, rest)) :
    skipExponent text = .ok rest := by
  have behind := skipDigits_takeDigits maxExponent 0 0 (skipSign text)
  unfold readExponent at read
  split at read
  next starts =>
    have ends : rest = skipDigits (skipSign text) := by
      dsimp only at read
      split at read
      next => exact (ofHugeExponent_rest read).trans behind
      next noDigit =>
        rw [skipDigits_of_noDigit (Bool.eq_false_iff.mpr noDigit)] at behind
        split at read <;> exact (ofParts_rest read).trans behind
    rw [skipExponent, if_pos starts, ends]
  next =>
    split at read <;> cases read

/-- What follows a mantissa is passed over where it is read. -/
theorem skipAfterMantissa_of_read
    (read : readAfterMantissa positive significand exponent text = .ok (number, rest)) :
    skipAfterMantissa text = .ok rest := by
  unfold readAfterMantissa at read
  split at read
  next c behind =>
    split at read
    next mark =>
      rw [skipAfterMantissa, if_pos mark]
      exact skipExponent_of_read read
    next noMark =>
      rw [skipAfterMantissa, if_neg noMark, ofParts_rest read]
  next =>
    rw [skipAfterMantissa, ofParts_rest read]

/-- A fraction that is read is also passed over, up to the same place. -/
theorem skipFraction_of_read
    (read : readFraction positive significand exponent text = .ok (number, rest)) :
    skipFraction text = .ok rest := by
  unfold readFraction at read
  split at read
  next starts =>
    have behind := skipAfterMantissa_of_read read
    rw [skipDigits_takeDigits] at behind
    rw [skipFraction, if_pos starts]
    exact behind
  next =>
    split at read <;> cases read

/-- What follows an integer is passed over where it is read. -/
theorem skipAfterInteger_of_read
    (read : readAfterInteger positive significand text = .ok (number, rest)) :
    skipAfterInteger text = .ok rest := by
  unfold readAfterInteger at read
  split at read
  next =>
    cases read
    rfl
  next c behind =>
    split at read
    next point =>
      rw [skipAfterInteger, if_pos point]
      exact skipFraction_of_read read
    next noPoint =>
      rw [skipAfterInteger, if_neg noPoint]
      split at read
      next mark =>
        rw [skipAfterMantissa, if_pos mark]
        exact skipExponent_of_read read
      next noMark =>
        cases read
        rw [skipAfterMantissa, if_neg noMark]

/-- The rest of an integer that does not fit is passed over where it is read. -/
theorem skipAfterInteger_of_readLong
    (read : readAfterLongInteger positive significand dropped text = .ok (number, rest)) :
    skipAfterInteger text = .ok rest := by
  unfold readAfterLongInteger at read
  split at read
  next =>
    rw [skipAfterInteger, ofParts_rest read]
  next c behind =>
    split at read
    next point =>
      rw [skipAfterInteger, if_pos point]
      exact skipFraction_of_read read
    next noPoint =>
      rw [skipAfterInteger, if_neg noPoint]
      exact skipAfterMantissa_of_read read

/-- A number that is read could have been passed over, also where its digits do not fit. -/
theorem skipNumber_of_read
    (read : readNumber positive text = .ok (number, rest)) :
    skipNumber text = .ok rest := by
  unfold readNumber at read
  split at read
  next =>
    cases read
  next c behind =>
    split at read
    next zero =>
      split at read
      next =>
        cases read
      next noDigit =>
        rw [skipNumber, if_pos zero, if_neg noDigit]
        exact skipAfterInteger_of_read read
    next noZero =>
      split at read
      next digit =>
        have digits := skipDigits_takeDigits maxSignificand (digitValue c) 0 behind
        rw [skipNumber, if_neg noZero, if_pos digit, ← digits]
        dsimp only at read
        split at read
        next =>
          exact skipAfterInteger_of_readLong read
        next noDigit =>
          rw [skipDigits_of_noDigit (Bool.eq_false_iff.mpr noDigit)]
          exact skipAfterInteger_of_read read
      next =>
        cases read

/-! ## Readers -/

variable {α : Type}

/-- Two steps succeed when both of them do, the second with what the first has given. -/
theorem exists_of_bind_eq_ok
    {β γ : Type}
    {first : Except Problem β}
    {next : β → Except Problem γ}
    {value : γ}
    (succeeds : first.bind next = .ok value) :
    ∃ between, first = .ok between ∧ next between = .ok value := by
  cases first with
  | error problem => cases succeeds
  | ok between => exact ⟨between, rfl, succeeds⟩

/-- What a reader takes is a value, up to the end of that value. -/
def Reader.TakesValues (reader : Reader α) : Prop :=
  ∀ ⦃text rest : List Char⦄ ⦃value : α⦄,
    reader.run text = .ok (value, rest) → skipValue text = .ok rest

/-- Behind blanks, a value without brackets is passed over as such. -/
theorem skipValue_of_scalar
    {start : List Char}
    (shape : skipBlanks text = start)
    (scalar : skipScalar start = .ok rest) :
    skipValue text = .ok rest := by
  exact (skipFrom_value_scalar shape scalar).trans (skipFrom_done rest)

namespace Reader

/-- A reader of natural numbers takes values. -/
theorem natural_takesValues
    (limit : Nat)
    (expected : String) :
    (natural limit expected).TakesValues := by
  have fitted
      {positive : Bool}
      {text rest : List Char}
      {value : Nat}
      (read : (readNumber positive text).bind (fitNatural limit expected) = .ok (value, rest)) :
      skipNumber text = .ok rest := by
    obtain ⟨⟨number, behind⟩, found, fits⟩ := exists_of_bind_eq_ok read
    rw [fitNatural_rest fits]
    exact skipNumber_of_read found
  intro text rest value read
  change readNatural limit expected text = .ok (value, rest) at read
  unfold readNatural at read
  split at read
  next =>
    cases read
  next c behind start =>
    refine skipValue_of_scalar start ?_
    split at read
    next sign =>
      subst sign
      exact fitted read
    next =>
      split at read
      next digit =>
        exact (skipScalar_of_digit digit behind).trans (fitted read)
      next =>
        cases read

/-- A reader takes values whatever is made of them. -/
theorem TakesValues.map
    {β : Type}
    {reader : Reader α}
    (takes : reader.TakesValues)
    (change : α → β) :
    (reader.map change).TakesValues := by
  intro text rest value read
  simp only [Reader.map] at read
  split at read
  next inner =>
    cases read
    exact takes inner
  next =>
    cases read

/-- A reader that may find nothing takes values when the one for something does. -/
theorem TakesValues.optional
    {reader : Reader α}
    (takes : reader.TakesValues) :
    reader.optional.TakesValues := by
  intro text rest value read
  change readOptional reader text = .ok (value, rest) at read
  unfold readOptional at read
  split at read
  next =>
    cases read
  next c behind start =>
    split at read
    next letter =>
      subst letter
      split at read
      next word =>
        cases read
        exact skipValue_of_scalar start word
      next =>
        cases read
    next =>
      split at read
      next inner =>
        cases read
        rw [← start] at inner
        exact (skipFrom_value_of_skipBlanks (skipBlanks_skipBlanks text)).symm.trans (takes inner)
      next =>
        cases read

/-- Finding the value of a name reads nothing. -/
theorem valueOfName_rest
    {values : List (String × α)}
    {name : String}
    {text rest : List Char}
    {value : α}
    (named : valueOfName values (name, text) = .ok (value, rest)) :
    rest = text := by
  unfold valueOfName at named
  grind

/-- A name that is read is a string that is passed over. -/
theorem skipString_of_readName
    {values : List (String × α)}
    {text rest : List Char}
    {value : α}
    (read : readName values text = .ok (value, rest)) :
    skipString text = .ok rest := by
  obtain ⟨⟨name, behind⟩, string, named⟩ := exists_of_bind_eq_ok read
  rw [valueOfName_rest named]
  exact skipString_of_readString string

/-- Matching the word behind white space is passing over a scalar there. -/
theorem skipNull_eq_ok
    {text rest : List Char}
    (skips : skipNull text = .ok rest) :
    ∃ start, skipBlanks text = start ∧ skipScalar start = .ok rest := by
  refine ⟨_, rfl, ?_⟩
  unfold skipNull at skips
  split at skips
  next =>
    cases skips
  next c behind start =>
    split at skips
    next letter =>
      subst letter
      rw [start]
      exact skips
    next =>
      cases skips

/-- Where the brace is matched it stands behind white space. -/
theorem skipOnlyBrace_eq_ok
    {text rest : List Char}
    (skips : skipOnlyBrace text = .ok rest) :
    skipBlanks text = '\x7d' :: rest := by
  unfold skipOnlyBrace at skips
  grind

/-- An object around a name is passed over like any other object. -/
theorem skipFrom_nameObject
    {values : List (String × α)}
    {text rest : List Char}
    {value : α}
    (read : readNameObject values text = .ok (value, rest)) :
    skipFrom .firstItem [.object] text = .ok rest := by
  unfold readNameObject at read
  split at read
  next =>
    cases read
  next c key start =>
    split at read
    next quote =>
      subst quote
      split at read
      next =>
        cases read
      next behindKey name =>
        split at read
        next =>
          cases read
        next behind skips =>
          cases read
          obtain ⟨behindNull, nulls, brace⟩ := exists_of_bind_eq_ok skips
          obtain ⟨behindColon, colon, null⟩ := exists_of_bind_eq_ok nulls
          obtain ⟨word, behindBlanks, scalar⟩ := skipNull_eq_ok null
          have keyed : skipKey (skipBlanks text) = .ok behindColon := by
            rw [start]
            exact skipKey_of_colon (skipString_of_readName name) colon
          calc
            _ = skipFrom .member [.object] text :=
              skipFrom_firstItem_more start (by decide)
            _ = skipFrom .value [.object] behindColon :=
              skipFrom_member keyed
            _ = skipFrom .nextItem [.object] behindNull :=
              skipFrom_value_scalar behindBlanks scalar
            _ = skipFrom .nextItem [] rest :=
              skipFrom_nextItem_closed (skipOnlyBrace_eq_ok brace)
            _ = .ok rest :=
              skipFrom_done rest
    next =>
      split at read <;> cases read

/-- A reader of one of several names takes values, in either form. -/
theorem choice_takesValues
    (values : List (String × α)) :
    (choice values).TakesValues := by
  intro text rest value read
  change readChoice values text = .ok (value, rest) at read
  unfold readChoice at read
  split at read
  next =>
    cases read
  next c behind start =>
    split at read
    next quote =>
      subst quote
      exact skipValue_of_scalar start (skipString_of_readName read)
    next =>
      split at read
      next brace =>
        subst brace
        have opens : skipBlanks text = Bracket.object.opening :: behind := start
        exact (skipFrom_value_open opens).trans (skipFrom_nameObject read)
      next =>
        cases read

end Reader

end Chip8.Json
