import Chip8.Json.Reader

namespace Chip8.Json

/-!
# Records

A record is read from an object, whose members may stand in any order and whose
unknown members are passed over, or from a list that gives the fields in the
order of their declaration.  The fields read so far are kept in a value of the
reader's own choice.
-/

/-- A named field of a record, and how its value joins the fields read so far. -/
structure Field (σ : Type) where
  name : String
  isRead : σ → Bool
  reader : σ → Reader σ

namespace Field

/-- A field that is kept as an optional value. -/
def ofOption
    {σ α : Type}
    (name : String)
    (get : σ → Option α)
    (set : σ → α → σ)
    (reader : Reader α) :
    Field σ where
  name :=
    name
  isRead taken :=
    (get taken).isSome
  reader taken :=
    reader.map (set taken)

end Field

/-- How a record is put together: `finish` gives the record, or the name of a field it lacks. -/
structure Shape (σ α : Type) where
  title : String
  start : σ
  fields : List (Field σ)
  finish : σ → Except String α

/-! ## Objects -/

/-- Find the next key of an object, whose opening quote is passed. -/
def nextMember
    (first : Bool)
    (text : List Char) :
    Except Problem Progress :=
  match skipBlanks text with
  | [] => .error (.before .unfinishedObject [])
  | c :: rest =>
      if c = '\x7d' then
        .ok (.closed rest)
      else if first then
        if c = '"' then
          .ok (.more rest)
        else
          .error (.within .keyNotString (c :: rest))
      else if c = ',' then
        match skipBlanks rest with
        | [] => .error (.before .missingValue [])
        | d :: rest =>
            if d = '"' then
              .ok (.more rest)
            else if d = '\x7d' then
              .error (.within .trailingComma (d :: rest))
            else
              .error (.within .keyNotString (d :: rest))
      else
        .error (.within .expectedCommaOrBrace (c :: rest))

/-- An object that is closed is read up to behind its brace. -/
theorem nextMember_closed_consumes
    {first : Bool}
    {text rest : List Char}
    (closed : nextMember first text = .ok (.closed rest)) :
    rest.length < text.length := by
  have blanks := length_skipBlanks_le text
  unfold nextMember at closed
  grind

/-- The next member of an object starts with a quote, which is read. -/
theorem nextMember_more_consumes
    {first : Bool}
    {text rest : List Char}
    (more : nextMember first text = .ok (.more rest)) :
    rest.length < text.length := by
  have blanks := length_skipBlanks_le text
  unfold nextMember at more
  grind [length_skipBlanks_le]

/-- The text behind a closing brace, if one comes next. -/
def behindBrace (text : List Char) : List Char :=
  match skipBlanks text with
  | [] => []
  | c :: rest =>
      if c = '\x7d' then
        rest
      else
        c :: rest

/-- Read the value of a member whose key was read. -/
def readMemberValue
    {σ : Type}
    (fields : List (Field σ))
    (taken : σ)
    (name : String)
    (text : List Char) :
    Except Problem (σ × List Char) :=
  match fields.find? (·.name == name) with
  | none =>
      match (skipColon text).bind skipValue with
      | .error problem => .error problem
      | .ok rest => .ok (taken, rest)
  | some field =>
      if field.isRead taken then
        .error (.before (.mismatch ("duplicate field " ++ ticked name)) (behindBrace text))
      else
        (skipColon text).bind (field.reader taken).run

/-- Read a member behind the opening quote of its key. -/
def readMember
    {σ : Type}
    (fields : List (Field σ))
    (taken : σ)
    (text : List Char) :
    Except Problem (σ × List Char) :=
  match readString text with
  | .error problem => .error problem
  | .ok (name, rest) => readMemberValue fields taken name rest

/-- What is read behind a colon makes the text shorter if it does so itself. -/
theorem bind_skipColon_consumes
    {β : Type}
    {next : List Char → Except Problem β}
    (behind : β → List Char)
    {text : List Char}
    {value : β}
    (next_consumes :
      ∀ {text : List Char} {value : β},
        next text = .ok value → (behind value).length < text.length)
    (read : (skipColon text).bind next = .ok value) :
    (behind value).length < text.length := by
  cases colon : skipColon text with
  | error problem =>
      rw [colon] at read
      cases read
  | ok rest =>
      rw [colon] at read
      have first := skipColon_consumes colon
      have second := next_consumes read
      omega

/-- Reading the value of a member makes the text shorter, whether its field is known or not. -/
theorem readMemberValue_consumes
    {σ : Type}
    {fields : List (Field σ)}
    {taken value : σ}
    {name : String}
    {text rest : List Char}
    (read : readMemberValue fields taken name text = .ok (value, rest)) :
    rest.length < text.length := by
  unfold readMemberValue at read
  split at read
  · split at read
    · cases read
    · rename_i skipped
      cases read
      exact bind_skipColon_consumes id skipValue_consumes skipped
  · rename_i field _
    split at read
    · cases read
    · exact bind_skipColon_consumes Prod.snd (field.reader taken).consumes read

/-- Reading a member makes the text shorter. -/
theorem readMember_consumes
    {σ : Type}
    {fields : List (Field σ)}
    {taken value : σ}
    {text rest : List Char}
    (read : readMember fields taken text = .ok (value, rest)) :
    rest.length < text.length := by
  unfold readMember at read
  split at read
  · cases read
  · rename_i name
    have first := readString_consumes name
    have second := readMemberValue_consumes read
    omega

/-- Read the members of an object behind its opening brace. -/
def readMembers
    {σ : Type}
    (fields : List (Field σ))
    (first : Bool)
    (taken : σ)
    (text : List Char) :
    Except Problem (σ × List Char) :=
  match _next : nextMember first text with
  | .error problem => .error problem
  | .ok (.closed rest) => .ok (taken, rest)
  | .ok (.more key) =>
      match _member : readMember fields taken key with
      | .error problem => .error problem
      | .ok (taken, rest) => readMembers fields false taken rest
  termination_by text.length
  decreasing_by
    have start := nextMember_more_consumes _next
    have shorter := readMember_consumes _member
    omega

/-- An object ends with a brace, so reading on in one makes the text shorter. -/
theorem readMembers_consumes
    {σ : Type}
    (fields : List (Field σ))
    (first : Bool)
    (taken : σ)
    (text : List Char)
    {value : σ}
    {rest : List Char}
    (read : readMembers fields first taken text = .ok (value, rest)) :
    rest.length < text.length := by
  fun_induction readMembers fields first taken text with
  | case1 => cases read
  | case2 first taken text behind closed =>
      cases read
      exact nextMember_closed_consumes closed
  | case3 => cases read
  | case4 first taken text key next value behind inner inductionHypothesis =>
      have start := nextMember_more_consumes next
      have shorter := readMember_consumes inner
      have tail := inductionHypothesis read
      omega

/-! ## Lists -/

/-- Match the end of a list whose items were all read. -/
def skipListEnd (text : List Char) : Except Problem (List Char) :=
  match skipBlanks text with
  | [] => .error (.before .unfinishedList [])
  | c :: rest =>
      if c = ']' then
        .ok rest
      else if c = ',' then
        match skipBlanks rest with
        | [] => .error (.before .trailingCharacters [])
        | d :: rest =>
            if d = ']' then
              .error (.within .trailingComma (d :: rest))
            else
              .error (.within .trailingCharacters (d :: rest))
      else
        .error (.within .trailingCharacters (c :: rest))

/-- Matching the end of a list makes the text shorter. -/
theorem skipListEnd_consumes
    {text rest : List Char}
    (read : skipListEnd text = .ok rest) :
    rest.length < text.length := by
  have blanks := length_skipBlanks_le text
  unfold skipListEnd at read
  grind

/-- Read fields in their order behind the opening bracket, and count them. -/
def readInOrder
    {σ : Type}
    (first : Bool)
    (count : Nat)
    (taken : σ)
    (text : List Char) :
    List (Field σ) → Except Problem ((σ × Nat) × List Char)
  | [] =>
      match skipListEnd text with
      | .error problem => .error problem
      | .ok rest => .ok ((taken, count), rest)
  | field :: fields =>
      match nextItem first text with
      | .error problem => .error problem
      | .ok (.closed rest) => .ok ((taken, count), rest)
      | .ok (.more item) =>
          match (field.reader taken).run item with
          | .error problem => .error problem
          | .ok (taken, rest) => readInOrder false (count + 1) taken rest fields

/-- Reading fields in their order makes the text shorter, down to the bracket that ends them. -/
theorem readInOrder_consumes
    {σ : Type}
    {fields : List (Field σ)}
    {first : Bool}
    {count : Nat}
    {taken : σ}
    {text rest : List Char}
    {value : σ × Nat}
    (read : readInOrder first count taken text fields = .ok (value, rest)) :
    rest.length < text.length := by
  induction fields generalizing first count taken text with
  | nil =>
      unfold readInOrder at read
      split at read
      · cases read
      · rename_i ended
        cases read
        exact skipListEnd_consumes ended
  | cons field fields inductionHypothesis =>
      unfold readInOrder at read
      split at read
      · cases read
      · rename_i closed
        cases read
        exact nextItem_closed_consumes closed
      · rename_i next
        have start := nextItem_more_length_le next
        split at read
        · cases read
        · rename_i inner
          have shorter := (field.reader taken).consumes inner
          have tail := inductionHypothesis read
          omega

/-! ## Records -/

namespace Shape

/-- The message about a field that an object lacks. -/
def missing (name : String) : Cause :=
  .mismatch ("missing field " ++ ticked name)

/-- The message about a list with too few items. -/
def tooShort
    {σ α : Type}
    (shape : Shape σ α)
    (count : Nat) :
    Cause :=
  .mismatch s!"invalid length {count}, expected {shape.title} with {shape.fields.length} elements"

/-- Put the fields of an object together. -/
def ofMembers
    {σ α : Type}
    (shape : Shape σ α) :
    σ × List Char → Except Problem (α × List Char)
  | (taken, rest) =>
      match shape.finish taken with
      | .ok value => .ok (value, rest)
      | .error name => .error (.before (missing name) rest)

/-- Put the fields of a list together. -/
def ofItems
    {σ α : Type}
    (shape : Shape σ α) :
    (σ × Nat) × List Char → Except Problem (α × List Char)
  | ((taken, count), rest) =>
      match shape.finish taken with
      | .ok value => .ok (value, rest)
      | .error _ => .error (.before (shape.tooShort count) rest)

/-- Read a record. -/
def read
    {σ α : Type}
    (shape : Shape σ α)
    (text : List Char) :
    Except Problem (α × List Char) :=
  match skipBlanks text with
  | [] => .error (.before .missingValue [])
  | c :: rest =>
      if c = '[' then
        (readInOrder true 0 shape.start rest shape.fields).bind shape.ofItems
      else if c = '\x7b' then
        (readMembers shape.fields true shape.start rest).bind shape.ofMembers
      else
        .error (unexpected shape.title (c :: rest))

/-- Finishing a record of members reads nothing. -/
theorem ofMembers_rest
    {σ α : Type}
    {shape : Shape σ α}
    {taken : σ}
    {value : α}
    {text rest : List Char}
    (finished : shape.ofMembers (taken, text) = .ok (value, rest)) :
    rest = text := by
  unfold ofMembers at finished
  grind

/-- Finishing a record of items reads nothing. -/
theorem ofItems_rest
    {σ α : Type}
    {shape : Shape σ α}
    {taken : σ}
    {count : Nat}
    {value : α}
    {text rest : List Char}
    (finished : shape.ofItems ((taken, count), text) = .ok (value, rest)) :
    rest = text := by
  unfold ofItems at finished
  grind

/-- Reading a record makes the text shorter, in either form. -/
theorem read_consumes
    {σ α : Type}
    {shape : Shape σ α}
    {text rest : List Char}
    {value : α}
    (read : shape.read text = .ok (value, rest)) :
    rest.length < text.length := by
  have blanks := length_skipBlanks_le text
  unfold Shape.read at read
  split at read
  · cases read
  · rename_i c tail start
    rw [start] at blanks
    simp only [List.length_cons] at blanks
    split at read
    · cases items : readInOrder true 0 shape.start tail shape.fields with
      | error problem =>
          rw [items] at read
          cases read
      | ok found =>
          obtain ⟨⟨taken, count⟩, behind⟩ := found
          rw [items] at read
          have same : rest = behind := ofItems_rest read
          have shorter := readInOrder_consumes items
          rw [same]
          omega
    · split at read
      · cases members : readMembers shape.fields true shape.start tail with
        | error problem =>
            rw [members] at read
            cases read
        | ok found =>
            obtain ⟨taken, behind⟩ := found
            rw [members] at read
            have same : rest = behind := ofMembers_rest read
            have shorter := readMembers_consumes _ _ _ _ members
            rw [same]
            omega
      · cases read

/-- A record. -/
def reader
    {σ α : Type}
    (shape : Shape σ α) :
    Reader α where
  run :=
    shape.read
  consumes :=
    read_consumes

end Shape

end Chip8.Json
