import Chip8.Json.Skip
import Chip8.Proofs.Text.Positional

namespace Chip8.Json

/-!
# The grammar of JSON

Which texts are values, whatever is read from them: words, numbers, strings, and
lists and objects with white space between their tokens.  A string also spells a
text when its surrogates come in pairs.
-/

/-- White space between two tokens. -/
structure Blanks where
  text : List Char
  areBlank : ∀ c ∈ text, isBlank c = true

namespace Blanks

/-- No white space at all. -/
def none : Blanks where
  text :=
    []
  areBlank :=
    List.forall_mem_nil _

end Blanks

/-! ## Numbers -/

/-- One or more digits. -/
def AreDigits (text : List Char) : Prop :=
  text ≠ [] ∧ ∀ c ∈ text, c.isDigit = true

instance
    (text : List Char) :
    Decidable (AreDigits text) :=
  @instDecidableAnd (text ≠ []) (∀ c ∈ text, c.isDigit = true) inferInstance
    (List.decidableBAll _ _)

/-- An integer part: zero, or digits that do not start with zero. -/
def IsWhole (text : List Char) : Prop :=
  text = ['0'] ∨ AreDigits text ∧ text.head? ≠ some '0'

/-- A fraction, or nothing. -/
def IsFraction (text : List Char) : Prop :=
  text = [] ∨ ∃ digits, AreDigits digits ∧ text = '.' :: digits

/-- An exponent, or nothing. -/
def IsExponent (text : List Char) : Prop :=
  text = [] ∨
    ∃ mark ∈ ['e', 'E'], ∃ sign ∈ [[], ['+'], ['-']], ∃ digits,
      AreDigits digits ∧ text = mark :: (sign ++ digits)

/-- A number of any size. -/
def IsNumber (text : List Char) : Prop :=
  ∃ sign ∈ [[], ['-']], ∃ whole fraction exponent,
    IsWhole whole ∧ IsFraction fraction ∧ IsExponent exponent ∧
      text = sign ++ (whole ++ (fraction ++ exponent))

/-! ## Strings -/

/-- A character that stands for itself in a string. -/
def IsPlain (c : Char) : Prop :=
  c ≠ '"' ∧ c ≠ '\\' ∧ isControl c = false

instance
    (c : Char) :
    Decidable (IsPlain c) :=
  inferInstanceAs (Decidable (c ≠ '"' ∧ c ≠ '\\' ∧ isControl c = false))

/-- Characters that all stand for themselves in a string. -/
def ArePlain (text : List Char) : Prop :=
  ∀ c ∈ text, IsPlain c

instance
    (text : List Char) :
    Decidable (ArePlain text) :=
  List.decidableBAll _ _

/-- The one-letter escapes, each with the character that it stands for. -/
def shortEscapes : List (Char × Char) :=
  [ ('"', '"'), ('\\', '\\'), ('/', '/'), ('b', '\x08'), ('f', '\x0c'), ('n', '\n'), ('r', '\r')
  , ('t', '\t') ]

/-- Four hexadecimal digits make a unit of text. -/
def IsUnit
    (digits : List Char)
    (unit : Nat) : Prop :=
  digits.length = 4 ∧ Hex.Denotes digits unit

/-- What may stand between the quotes of a string; surrogates need no partner. -/
inductive IsString : List Char → Prop where
  | nil :
      IsString []
  | plain
      {c : Char}
      {rest : List Char}
      (isPlain : IsPlain c)
      (later : IsString rest) :
      IsString (c :: rest)
  | short
      {letter c : Char}
      {rest : List Char}
      (listed : (letter, c) ∈ shortEscapes)
      (later : IsString rest) :
      IsString ('\\' :: letter :: rest)
  | unit
      {digits rest : List Char}
      {unit : Nat}
      (isUnit : IsUnit digits unit)
      (later : IsString rest) :
      IsString ('\\' :: 'u' :: (digits ++ rest))

/-- What stands between the quotes of a string spells a text. -/
inductive Spells : List Char → List Char → Prop where
  | nil :
      Spells [] []
  | plain
      {c : Char}
      {rest spelled : List Char}
      (isPlain : IsPlain c)
      (later : Spells rest spelled) :
      Spells (c :: rest) (c :: spelled)
  | short
      {letter c : Char}
      {rest spelled : List Char}
      (listed : (letter, c) ∈ shortEscapes)
      (later : Spells rest spelled) :
      Spells ('\\' :: letter :: rest) (c :: spelled)
  | unit
      {digits rest spelled : List Char}
      {c : Char}
      (isUnit : IsUnit digits c.toNat)
      (later : Spells rest spelled) :
      Spells ('\\' :: 'u' :: (digits ++ rest)) (c :: spelled)
  | pair
      {highDigits lowDigits rest spelled : List Char}
      {high low : Nat}
      {c : Char}
      (isHigh : IsUnit highDigits (0xD800 + high))
      (isLow : IsUnit lowDigits (0xDC00 + low))
      (highFits : high < 0x400)
      (lowFits : low < 0x400)
      (paired : c.toNat = 0x10000 + high * 0x400 + low)
      (later : Spells rest spelled) :
      Spells
        ('\\' :: 'u' :: (highDigits ++ '\\' :: 'u' :: (lowDigits ++ rest)))
        (c :: spelled)

/-- What spells a text may stand between the quotes of a string. -/
theorem Spells.isString
    {text spelled : List Char}
    (spells : Spells text spelled) :
    IsString text := by
  induction spells with
  | nil => exact .nil
  | plain isPlain _ inductionHypothesis => exact .plain isPlain inductionHypothesis
  | short listed _ inductionHypothesis => exact .short listed inductionHypothesis
  | unit isUnit _ inductionHypothesis => exact .unit isUnit inductionHypothesis
  | pair isHigh isLow _ _ _ _ inductionHypothesis =>
      exact .unit isHigh (.unit isLow inductionHypothesis)

/-- A text that needs no escapes spells itself. -/
theorem spells_self
    {text : List Char}
    (plain : ArePlain text) :
    Spells text text := by
  induction text with
  | nil =>
      exact .nil
  | cons c rest inductionHypothesis =>
      have first : IsPlain c :=
        plain c List.mem_cons_self
      exact .plain first (inductionHypothesis fun d member =>
        plain d (List.mem_cons_of_mem _ member))

/-! ## Values -/

/-- The character that opens a bracket. -/
def Bracket.opening : Bracket → Char
  | .list => '['
  | .object => '\x7b'

/-- The words that are values. -/
def words : List (List Char) :=
  ["null".toList, "true".toList, "false".toList]

/-- A part of a text: a value, an item of a list or an object, or all items of one. -/
inductive Phrase where
  | value
  | item (bracket : Bracket)
  | items (bracket : Bracket)
  deriving Repr, DecidableEq

/-- The texts of each kind of phrase, nested to any depth. -/
inductive Phrase.Matches : Phrase → List Char → Prop where
  | word
      {text : List Char}
      (listed : text ∈ words) :
      Phrase.value.Matches text
  | number
      {text : List Char}
      (isNumber : IsNumber text) :
      Phrase.value.Matches text
  | string
      {text : List Char}
      (isString : IsString text) :
      Phrase.value.Matches ('"' :: (text ++ ['"']))
  | empty
      (bracket : Bracket)
      (blanks : Blanks) :
      Phrase.value.Matches (bracket.opening :: (blanks.text ++ [bracket.closing]))
  | filled
      {bracket : Bracket}
      {items : List Char}
      (inside : (Phrase.items bracket).Matches items) :
      Phrase.value.Matches (bracket.opening :: (items ++ [bracket.closing]))
  | element
      {value : List Char}
      (before after : Blanks)
      (isValue : Phrase.value.Matches value) :
      (Phrase.item .list).Matches (before.text ++ (value ++ after.text))
  | member
      {key value : List Char}
      (beforeKey afterKey beforeValue afterValue : Blanks)
      (isString : IsString key)
      (isValue : Phrase.value.Matches value) :
      (Phrase.item .object).Matches
        (beforeKey.text ++ '"' :: (key ++ '"' :: (afterKey.text ++ ':' ::
          (beforeValue.text ++ (value ++ afterValue.text)))))
  | last
      {bracket : Bracket}
      {item : List Char}
      (isItem : (Phrase.item bracket).Matches item) :
      (Phrase.items bracket).Matches item
  | further
      {bracket : Bracket}
      {item items : List Char}
      (isItem : (Phrase.item bracket).Matches item)
      (areItems : (Phrase.items bracket).Matches items) :
      (Phrase.items bracket).Matches (item ++ ',' :: items)

/-- The text of a value. -/
abbrev IsValue (text : List Char) : Prop :=
  Phrase.value.Matches text

end Chip8.Json
