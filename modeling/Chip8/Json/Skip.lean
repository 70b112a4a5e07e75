import Chip8.Json.Number
import Chip8.Json.Quoted

namespace Chip8.Json

/-!
# Passing over values

White space may stand between any two tokens.  A value that nothing is read from
still has to be well formed.  The brackets that are open are kept in a list, so
values may be nested to any depth.
-/

/-! ## White space -/

/-- Whether a character may stand between tokens. -/
def isBlank (c : Char) : Bool :=
  c == ' ' || c == '\t' || c == '\n' || c == '\r'

/-- The text from the next token on. -/
def skipBlanks (text : List Char) : List Char :=
  text.dropWhile isBlank

/-- Passing over white space leaves no more text than there was. -/
theorem length_skipBlanks_le (text : List Char) :
    (skipBlanks text).length ≤ text.length :=
  (List.dropWhile_sublist isBlank).length_le

/-! ## Values -/

/-- Match a word letter by letter and return the text behind it. -/
def skipWord :
    List Char → List Char → Except Problem (List Char)
  | [], text => .ok text
  | _ :: _, [] => .error (.before .missingValue [])
  | letter :: word, c :: rest =>
      if c = letter then
        skipWord word rest
      else
        .error (.within .expectedWord (c :: rest))

/-- Pass over a value that is neither list nor object; the text starts with its first character. -/
def skipScalar : List Char → Except Problem (List Char)
  | [] => .error (.before .missingValue [])
  | c :: rest =>
      if c = 'n' then
        skipWord ['u', 'l', 'l'] rest
      else if c = 't' then
        skipWord ['r', 'u', 'e'] rest
      else if c = 'f' then
        skipWord ['a', 'l', 's', 'e'] rest
      else if c = '"' then
        skipString rest
      else if c = '-' then
        skipNumber rest
      else if c.isDigit then
        skipNumber (c :: rest)
      else
        .error (.within .expectedValue (c :: rest))

/-- Matching a word leaves no more text than there was. -/
theorem skipWord_length_le
    {word text rest : List Char}
    (read : skipWord word text = .ok rest) :
    rest.length ≤ text.length := by
  fun_induction skipWord word text with
  | case1 =>
      cases read
      exact Nat.le_refl _
  | case2 => cases read
  | case3 word c text inductionHypothesis =>
      have shorter := inductionHypothesis read
      simp only [List.length_cons]
      omega
  | case4 => cases read

/-- A scalar has a character at least, so passing over one makes the text shorter. -/
theorem skipScalar_consumes
    {text rest : List Char}
    (read : skipScalar text = .ok rest) :
    rest.length < text.length := by
  unfold skipScalar at read
  split at read
  · cases read
  · rename_i c tail
    simp only [List.length_cons]
    split at read
    · have shorter := skipWord_length_le read
      omega
    · split at read
      · have shorter := skipWord_length_le read
        omega
      · split at read
        · have shorter := skipWord_length_le read
          omega
        · split at read
          · have shorter := skipString_consumes read
            omega
          · split at read
            · have shorter := skipNumber_consumes read
              omega
            · split at read
              · have shorter := skipNumber_consumes read
                simp only [List.length_cons] at shorter
                omega
              · cases read

/-- The two kinds of brackets. -/
inductive Bracket where
  | list
  | object
  deriving Repr, DecidableEq

namespace Bracket

/-- The character that closes a bracket. -/
def closing : Bracket → Char
  | .list => ']'
  | .object => '\x7d'

/-- The cause when the text ends inside a bracket. -/
def unfinished : Bracket → Cause
  | .list => .unfinishedList
  | .object => .unfinishedObject

/-- The cause when neither a comma nor the closing bracket follows an item. -/
def expectedComma : Bracket → Cause
  | .list => .expectedCommaOrBracket
  | .object => .expectedCommaOrBrace

end Bracket

/-- What is expected next while values are passed over. -/
inductive Stage where
  | value
  | member
  | firstItem
  | nextItem
  deriving Repr, DecidableEq

namespace Stage

/-- The stage in which an item of a bracket starts. -/
def item : Bracket → Stage
  | .list => .value
  | .object => .member

/-- An order of the stages that do not consume anything before they pass on. -/
def weight : Stage → Nat
  | .firstItem => 1
  | _ => 0

/-- At the start of an item something is read before the stage changes. -/
theorem weight_item (bracket : Bracket) : (item bracket).weight = 0 := by
  cases bracket <;> rfl

end Stage

/-- Pass over the key of a member and the colon; the text starts with the opening quote. -/
def skipKey : List Char → Except Problem (List Char)
  | [] => .error (.before .unfinishedObject [])
  | c :: rest =>
      if c = '"' then
        match skipString rest with
        | .error problem => .error problem
        | .ok rest =>
            match skipBlanks rest with
            | [] => .error (.before .unfinishedObject [])
            | mark :: rest =>
                if mark = ':' then
                  .ok rest
                else
                  .error (.within .expectedColon (mark :: rest))
      else
        .error (.within .keyNotString (c :: rest))

/-- Passing over a key and its colon makes the text shorter. -/
theorem skipKey_consumes
    {text rest : List Char}
    (read : skipKey text = .ok rest) :
    rest.length < text.length := by
  unfold skipKey at read
  split at read
  · cases read
  · simp only [List.length_cons]
    split at read
    · split at read
      · cases read
      · rename_i behind skipped
        have shorter := skipString_consumes skipped
        have blanks := length_skipBlanks_le behind
        split at read
        · cases read
        · rename_i same
          split at read
          · cases read
            rw [same] at blanks
            simp only [List.length_cons] at blanks
            omega
          · cases read
    · cases read

/-- Pass over what is expected next and everything up to the end of the outermost open bracket. -/
def skipFrom
    (stage : Stage)
    (enclosing : List Bracket)
    (text : List Char) :
    Except Problem (List Char) :=
  match stage, enclosing with
  | .value, enclosing =>
      match _start : skipBlanks text with
      | [] => .error (.before .missingValue [])
      | c :: rest =>
          if c = '[' then
            skipFrom .firstItem (.list :: enclosing) rest
          else if c = '\x7b' then
            skipFrom .firstItem (.object :: enclosing) rest
          else
            match _scalar : skipScalar (c :: rest) with
            | .ok behind => skipFrom .nextItem enclosing behind
            | .error problem => .error problem
  | .member, enclosing =>
      match _key : skipKey (skipBlanks text) with
      | .ok behind => skipFrom .value enclosing behind
      | .error problem => .error problem
  | .firstItem, [] | .nextItem, [] => .ok text
  | .firstItem, bracket :: outer =>
      match _start : skipBlanks text with
      | [] => .error (.before bracket.unfinished [])
      | c :: rest =>
          if c = bracket.closing then
            skipFrom .nextItem outer rest
          else
            skipFrom (.item bracket) (bracket :: outer) (c :: rest)
  | .nextItem, bracket :: outer =>
      match _start : skipBlanks text with
      | [] => .error (.before bracket.unfinished [])
      | c :: rest =>
          if c = bracket.closing then
            skipFrom .nextItem outer rest
          else if c = ',' then
            skipFrom (.item bracket) (bracket :: outer) rest
          else
            .error (.within bracket.expectedComma (c :: rest))
  termination_by 2 * text.length + stage.weight
  decreasing_by
    all_goals
      have blanks := length_skipBlanks_le text
      try rw [Stage.weight_item]
      simp only [Stage.weight]
    · rw [_start] at blanks
      simp only [List.length_cons] at blanks
      omega
    · rw [_start] at blanks
      simp only [List.length_cons] at blanks
      omega
    · have shorter := skipScalar_consumes _scalar
      rw [_start] at blanks
      omega
    · have shorter := skipKey_consumes _key
      omega
    · rw [_start] at blanks
      simp only [List.length_cons] at blanks
      omega
    · rw [_start] at blanks
      omega
    · rw [_start] at blanks
      simp only [List.length_cons] at blanks
      omega
    · rw [_start] at blanks
      simp only [List.length_cons] at blanks
      omega

/-- Passing over values leaves no more text than there was, from every stage. -/
theorem skipFrom_length_le
    (stage : Stage)
    (enclosing : List Bracket)
    (text : List Char)
    {rest : List Char}
    (read : skipFrom stage enclosing text = .ok rest) :
    rest.length ≤ text.length := by
  fun_induction skipFrom stage enclosing text <;>
    grind [length_skipBlanks_le, → skipScalar_consumes, → skipKey_consumes]

/-- Pass over one value. -/
def skipValue (text : List Char) : Except Problem (List Char) :=
  skipFrom .value [] text

/-- Passing over a value makes the text shorter. -/
theorem skipValue_consumes
    {text rest : List Char}
    (read : skipValue text = .ok rest) :
    rest.length < text.length := by
  unfold skipValue at read
  unfold skipFrom at read
  have blanks := length_skipBlanks_le text
  split at read
  · cases read
  · rename_i c tail start
    rw [start] at blanks
    simp only [List.length_cons] at blanks
    split at read
    · have shorter := skipFrom_length_le _ _ _ read
      omega
    · split at read
      · have shorter := skipFrom_length_le _ _ _ read
        omega
      · split at read
        · rename_i behind scalar
          have first := skipScalar_consumes scalar
          have second := skipFrom_length_le _ _ _ read
          simp only [List.length_cons] at first
          omega
        · cases read

end Chip8.Json
