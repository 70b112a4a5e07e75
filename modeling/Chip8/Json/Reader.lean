import Chip8.Decimal
import Chip8.Json.Skip
import Chip8.Text

namespace Chip8.Json

/-!
# Readers

A reader takes a value of some type from the front of a text.  It carries the
law that it consumes at least one character, and with that law the loops over
lists and objects end.  What does not fit the wanted type is named in the words
of the text: its kind, and its value where it has a short one.
-/

/-- A way to read a value, which consumes at least one character. -/
structure Reader (α : Type) where
  run : List Char → Except Problem (α × List Char)
  consumes :
    ∀ {text rest : List Char} {value : α},
      run text = .ok (value, rest) → rest.length < text.length

/-- Numbers in messages have no exponent from `10 ^ -5` up to below `10 ^ 16`. -/
def numberLayout : Decimal.Layout where
  lowest :=
    -5
  highest :=
    15

/-- A text between backticks. -/
def ticked (text : String) : String :=
  "`" ++ text ++ "`"

/-- A number that was found, with its kind. -/
def Number.description : Number → String
  | .natural value => "integer " ++ ticked (toString value)
  | .negative magnitude => "integer " ++ ticked ("-" ++ toString magnitude)
  | .decimal value => "floating point " ++ ticked (numberLayout.text value)

/-- A value that was found, with its kind, and the text behind it; brackets are not entered. -/
def readDescription : List Char → Except Problem (String × List Char)
  | [] => .error (.before .missingValue [])
  | c :: rest =>
      if c = 'n' then
        (skipWord ['u', 'l', 'l'] rest).map fun behind => ("null", behind)
      else if c = 't' then
        (skipWord ['r', 'u', 'e'] rest).map fun behind => ("boolean `true`", behind)
      else if c = 'f' then
        (skipWord ['a', 'l', 's', 'e'] rest).map fun behind => ("boolean `false`", behind)
      else if c = '"' then
        (readString rest).map fun (text, behind) => ("string " ++ Text.quoted text, behind)
      else if c = '-' then
        (readNumber false rest).map fun (number, behind) => (number.description, behind)
      else if c.isDigit then
        (readNumber true (c :: rest)).map fun (number, behind) => (number.description, behind)
      else if c = '[' then
        .ok ("sequence", c :: rest)
      else if c = '\x7b' then
        .ok ("map", c :: rest)
      else
        .error (.within .expectedValue (c :: rest))

/-- The message about a value of the wrong kind. -/
def wrongKind
    (found expected : String) :
    Cause :=
  .mismatch ("invalid type: " ++ found ++ ", expected " ++ expected)

/-- The message about a value outside its range. -/
def wrongValue
    (found expected : String) :
    Cause :=
  .mismatch ("invalid value: " ++ found ++ ", expected " ++ expected)

/-- The problem of a value that is not of the expected kind. -/
def unexpected
    (expected : String)
    (text : List Char) :
    Problem :=
  match readDescription text with
  | .ok (found, rest) => .before (wrongKind found expected) rest
  | .error problem => problem

/-! ## Natural numbers -/

/-- Keep a number that is a natural number up to a limit. -/
def fitNatural
    (limit : Nat)
    (expected : String) :
    Number × List Char → Except Problem (Nat × List Char)
  | (.natural value, rest) =>
      if value ≤ limit then
        .ok (value, rest)
      else
        .error (.before (wrongValue (Number.natural value).description expected) rest)
  | (.negative magnitude, rest) =>
      .error (.before (wrongValue (Number.negative magnitude).description expected) rest)
  | (.decimal value, rest) =>
      .error (.before (wrongKind (Number.decimal value).description expected) rest)

/-- Read a natural number up to a limit. -/
def readNatural
    (limit : Nat)
    (expected : String)
    (text : List Char) :
    Except Problem (Nat × List Char) :=
  match skipBlanks text with
  | [] => .error (.before .missingValue [])
  | c :: rest =>
      if c = '-' then
        (readNumber false rest).bind (fitNatural limit expected)
      else if c.isDigit then
        (readNumber true (c :: rest)).bind (fitNatural limit expected)
      else
        .error (unexpected expected (c :: rest))

/-- Whether a number fits is decided without reading on. -/
theorem fitNatural_rest
    {limit value : Nat}
    {expected : String}
    {number : Number}
    {text rest : List Char}
    (fits : fitNatural limit expected (number, text) = .ok (value, rest)) :
    rest = text := by
  unfold fitNatural at fits
  split at fits
  · split at fits
    · grind
    · cases fits
  · cases fits
  · cases fits

/-- A number that is read and fits makes the text shorter. -/
theorem bind_fitNatural_consumes
    {limit value : Nat}
    {expected : String}
    {positive : Bool}
    {text rest : List Char}
    (read :
      (readNumber positive text).bind (fitNatural limit expected) = .ok (value, rest)) :
    rest.length < text.length := by
  cases number : readNumber positive text with
  | error problem =>
      rw [number] at read
      cases read
  | ok found =>
      obtain ⟨found, behind⟩ := found
      rw [number] at read
      have same : rest = behind := fitNatural_rest read
      rw [same]
      exact readNumber_consumes number

/-- Reading a natural number makes the text shorter. -/
theorem readNatural_consumes
    {limit value : Nat}
    {expected : String}
    {text rest : List Char}
    (read : readNatural limit expected text = .ok (value, rest)) :
    rest.length < text.length := by
  have blanks := length_skipBlanks_le text
  unfold readNatural at read
  split at read
  · cases read
  · rename_i c tail start
    rw [start] at blanks
    simp only [List.length_cons] at blanks
    split at read
    · have shorter := bind_fitNatural_consumes read
      omega
    · split at read
      · have shorter := bind_fitNatural_consumes read
        simp only [List.length_cons] at shorter
        omega
      · cases read

namespace Reader

/-- The same reader with its value changed. -/
def map
    {α β : Type}
    (change : α → β)
    (reader : Reader α) :
    Reader β where
  run text :=
    match reader.run text with
    | .ok (value, rest) => .ok (change value, rest)
    | .error problem => .error problem
  consumes := by
    intro text rest value read
    split at read
    · rename_i inner
      simp only [Except.ok.injEq, Prod.mk.injEq] at read
      obtain ⟨_, rfl⟩ := read
      exact reader.consumes inner
    · cases read

/-- A natural number up to a limit. -/
def natural
    (limit : Nat)
    (expected : String) :
    Reader Nat where
  run :=
    readNatural limit expected
  consumes :=
    readNatural_consumes

/-- A natural number of thirty-two bits. -/
def word : Reader UInt32 :=
  (natural (UInt32.size - 1) "u32").map UInt32.ofNat

/-- A natural number of sixty-four bits. -/
def longWord : Reader UInt64 :=
  (natural (UInt64.size - 1) "u64").map UInt64.ofNat

/-- A value that is passed over. -/
def ignored : Reader Unit where
  run text :=
    match skipValue text with
    | .ok rest => .ok ((), rest)
    | .error problem => .error problem
  consumes := by
    intro text rest value read
    split at read
    · rename_i skipped
      cases read
      exact skipValue_consumes skipped
    · cases read

/-- Read a value, or nothing where the text has the word `null`. -/
def readOptional
    {α : Type}
    (reader : Reader α)
    (text : List Char) :
    Except Problem (Option α × List Char) :=
  match skipBlanks text with
  | [] => .error (.before .missingValue [])
  | c :: rest =>
      if c = 'n' then
        match skipWord ['u', 'l', 'l'] rest with
        | .ok behind => .ok (none, behind)
        | .error problem => .error problem
      else
        match reader.run (c :: rest) with
        | .ok (value, behind) => .ok (some value, behind)
        | .error problem => .error problem

/-- Either the word or a value is read, and both make the text shorter. -/
theorem readOptional_consumes
    {α : Type}
    {reader : Reader α}
    {text rest : List Char}
    {value : Option α}
    (read : reader.readOptional text = .ok (value, rest)) :
    rest.length < text.length := by
  have blanks := length_skipBlanks_le text
  unfold readOptional at read
  split at read
  · cases read
  · rename_i c tail start
    rw [start] at blanks
    simp only [List.length_cons] at blanks
    split at read
    · split at read
      · rename_i skipped
        cases read
        have shorter := skipWord_length_le skipped
        omega
      · cases read
    · split at read
      · rename_i inner
        cases read
        have shorter := reader.consumes inner
        simp only [List.length_cons] at shorter
        omega
      · cases read

/-- A value, or nothing where the text has the word `null`. -/
def optional
    {α : Type}
    (reader : Reader α) :
    Reader (Option α) where
  run :=
    reader.readOptional
  consumes :=
    readOptional_consumes

end Reader

/-! ## Names -/

/-- The names that are possible, for messages. -/
def possibleNames : List String → String
  | [] => "nothing"
  | [only] => ticked only
  | [first, second] => ticked first ++ " or " ++ ticked second
  | names => "one of " ++ String.intercalate ", " (names.map ticked)

/-- The value of a name, read before the rest of the text. -/
def valueOfName
    {α : Type}
    (values : List (String × α)) :
    String × List Char → Except Problem (α × List Char)
  | (name, rest) =>
      match values.lookup name with
      | some value => .ok (value, rest)
      | none =>
          .error (.before
            (.mismatch ("unknown variant " ++ ticked name ++ ", expected " ++
              possibleNames (values.map Prod.fst)))
            rest)

/-- Read a name behind its opening quote. -/
def readName
    {α : Type}
    (values : List (String × α))
    (text : List Char) :
    Except Problem (α × List Char) :=
  (readString text).bind (valueOfName values)

/-- Match a colon after white space. -/
def skipColon (text : List Char) : Except Problem (List Char) :=
  match skipBlanks text with
  | [] => .error (.before .unfinishedObject [])
  | c :: rest =>
      if c = ':' then
        .ok rest
      else
        .error (.within .expectedColon (c :: rest))

/-- Match the word `null` after white space. -/
def skipNull (text : List Char) : Except Problem (List Char) :=
  match skipBlanks text with
  | [] => .error (.before .missingValue [])
  | c :: rest =>
      if c = 'n' then
        skipWord ['u', 'l', 'l'] rest
      else
        .error (unexpected "unit" (c :: rest))

/-- Match the end of an object whose only member was read. -/
def skipOnlyBrace (text : List Char) : Except Problem (List Char) :=
  match skipBlanks text with
  | [] => .error (.before .unfinishedObject [])
  | c :: rest =>
      if c = '\x7d' then
        .ok rest
      else
        .error (.before .expectedValue (c :: rest))

/-- Read a name that is the key of an object's only member, behind the opening brace. -/
def readNameObject
    {α : Type}
    (values : List (String × α))
    (text : List Char) :
    Except Problem (α × List Char) :=
  match skipBlanks text with
  | [] => .error (.before .unfinishedObject [])
  | c :: rest =>
      if c = '"' then
        match readName values rest with
        | .error problem => .error problem
        | .ok (value, rest) =>
            match ((skipColon rest).bind skipNull).bind skipOnlyBrace with
            | .error problem => .error problem
            | .ok rest => .ok (value, rest)
      else if c = '\x7d' then
        .error (.within .expectedValue (c :: rest))
      else
        .error (.within .keyNotString (c :: rest))

/-- Read one of several names, as a string or as the key of an object whose value is `null`. -/
def readChoice
    {α : Type}
    (values : List (String × α))
    (text : List Char) :
    Except Problem (α × List Char) :=
  match skipBlanks text with
  | [] => .error (.before .missingValue [])
  | c :: rest =>
      if c = '"' then
        readName values rest
      else if c = '\x7b' then
        readNameObject values rest
      else
        .error (.within .expectedValue (c :: rest))

/-- Reading a name makes the text shorter. -/
theorem readName_consumes
    {α : Type}
    {values : List (String × α)}
    {text rest : List Char}
    {value : α}
    (read : readName values text = .ok (value, rest)) :
    rest.length < text.length := by
  unfold readName at read
  cases name : readString text with
  | error problem =>
      rw [name] at read
      cases read
  | ok found =>
      obtain ⟨found, behind⟩ := found
      have shorter := readString_consumes name
      rw [name] at read
      simp only [Except.bind, valueOfName] at read
      split at read
      · cases read
        exact shorter
      · cases read

/-- Matching a colon makes the text shorter. -/
theorem skipColon_consumes
    {text rest : List Char}
    (read : skipColon text = .ok rest) :
    rest.length < text.length := by
  have blanks := length_skipBlanks_le text
  unfold skipColon at read
  grind

/-- Matching the word makes the text shorter. -/
theorem skipNull_consumes
    {text rest : List Char}
    (read : skipNull text = .ok rest) :
    rest.length < text.length := by
  have blanks := length_skipBlanks_le text
  unfold skipNull at read
  grind [→ skipWord_length_le]

/-- Matching the brace makes the text shorter. -/
theorem skipOnlyBrace_consumes
    {text rest : List Char}
    (read : skipOnlyBrace text = .ok rest) :
    rest.length < text.length := by
  have blanks := length_skipBlanks_le text
  unfold skipOnlyBrace at read
  grind

/-- Reading a name that is the key of an object makes the text shorter. -/
theorem readNameObject_consumes
    {α : Type}
    {values : List (String × α)}
    {text rest : List Char}
    {value : α}
    (read : readNameObject values text = .ok (value, rest)) :
    rest.length < text.length := by
  have blanks := length_skipBlanks_le text
  unfold readNameObject at read
  simp only [Except.bind] at read
  grind [→ readName_consumes, → skipColon_consumes, → skipNull_consumes,
    → skipOnlyBrace_consumes]

/-- Reading one of several names makes the text shorter, in either form. -/
theorem readChoice_consumes
    {α : Type}
    {values : List (String × α)}
    {text rest : List Char}
    {value : α}
    (read : readChoice values text = .ok (value, rest)) :
    rest.length < text.length := by
  have blanks := length_skipBlanks_le text
  unfold readChoice at read
  grind [→ readName_consumes, → readNameObject_consumes]

/-- One of several names. -/
def Reader.choice
    {α : Type}
    (values : List (String × α)) :
    Reader α where
  run :=
    readChoice values
  consumes :=
    readChoice_consumes

/-! ## Lists -/

/-- Where a list or object goes on: behind its closing bracket, or at its next item. -/
inductive Progress where
  | closed (rest : List Char)
  | more (text : List Char)
  deriving Repr, DecidableEq

/-- Find the next item of a list. -/
def nextItem
    (first : Bool)
    (text : List Char) :
    Except Problem Progress :=
  match skipBlanks text with
  | [] => .error (.before .unfinishedList [])
  | c :: rest =>
      if c = ']' then
        .ok (.closed rest)
      else if first then
        .ok (.more (c :: rest))
      else if c = ',' then
        match skipBlanks rest with
        | [] => .error (.before .missingValue [])
        | d :: rest =>
            if d = ']' then
              .error (.within .trailingComma (d :: rest))
            else
              .ok (.more (d :: rest))
      else
        .error (.within .expectedCommaOrBracket (c :: rest))

/-- A list that is closed is read up to behind its bracket. -/
theorem nextItem_closed_consumes
    {first : Bool}
    {text rest : List Char}
    (closed : nextItem first text = .ok (.closed rest)) :
    rest.length < text.length := by
  have blanks := length_skipBlanks_le text
  unfold nextItem at closed
  grind

/-- Going on to the next item of a list leaves no more text than there was. -/
theorem nextItem_more_length_le
    {first : Bool}
    {text rest : List Char}
    (more : nextItem first text = .ok (.more rest)) :
    rest.length ≤ text.length := by
  have blanks := length_skipBlanks_le text
  unfold nextItem at more
  grind [length_skipBlanks_le]

/-- Read the items of a list behind its opening bracket, given those before, the latest first. -/
def readItemsFrom
    {α : Type}
    (reader : Reader α)
    (first : Bool)
    (taken : List α)
    (text : List Char) :
    Except Problem (List α × List Char) :=
  match _next : nextItem first text with
  | .error problem => .error problem
  | .ok (.closed rest) => .ok (taken.reverse, rest)
  | .ok (.more item) =>
      match _item : reader.run item with
      | .error problem => .error problem
      | .ok (value, rest) => readItemsFrom reader false (value :: taken) rest
  termination_by text.length
  decreasing_by
    have start := nextItem_more_length_le _next
    have shorter := reader.consumes _item
    omega

/-- A list ends with a bracket, so reading on in one makes the text shorter. -/
theorem readItemsFrom_consumes
    {α : Type}
    (reader : Reader α)
    (first : Bool)
    (taken : List α)
    (text : List Char)
    {values : List α}
    {rest : List Char}
    (read : readItemsFrom reader first taken text = .ok (values, rest)) :
    rest.length < text.length := by
  fun_induction readItemsFrom reader first taken text with
  | case1 => cases read
  | case2 first taken text behind closed =>
      cases read
      exact nextItem_closed_consumes closed
  | case3 => cases read
  | case4 first taken text item next value behind inner inductionHypothesis =>
      have start := nextItem_more_length_le next
      have shorter := reader.consumes inner
      have tail := inductionHypothesis read
      omega

/-- Read a list. -/
def readList
    {α : Type}
    (reader : Reader α)
    (text : List Char) :
    Except Problem (List α × List Char) :=
  match skipBlanks text with
  | [] => .error (.before .missingValue [])
  | c :: rest =>
      if c = '[' then
        readItemsFrom reader true [] rest
      else
        .error (unexpected "a sequence" (c :: rest))

/-- Reading a list makes the text shorter. -/
theorem readList_consumes
    {α : Type}
    {reader : Reader α}
    {text rest : List Char}
    {values : List α}
    (read : readList reader text = .ok (values, rest)) :
    rest.length < text.length := by
  have blanks := length_skipBlanks_le text
  unfold readList at read
  grind [→ readItemsFrom_consumes]

/-- A list of values. -/
def Reader.list
    {α : Type}
    (reader : Reader α) :
    Reader (List α) where
  run :=
    readList reader
  consumes :=
    readList_consumes

/-! ## Whole texts -/

/-- Read a text that holds one value and nothing else but white space. -/
def Reader.parse
    {α : Type}
    (reader : Reader α)
    (text : String) :
    Except Error α :=
  match reader.run text.toList with
  | .error problem => .error (.ofProblem text.toList problem)
  | .ok (value, rest) =>
      match skipBlanks rest with
      | [] => .ok value
      | c :: rest =>
          .error (.ofProblem text.toList (.within .trailingCharacters (c :: rest)))

end Chip8.Json
