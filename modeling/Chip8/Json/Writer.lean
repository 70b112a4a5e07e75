namespace Chip8.Json

/-!
# Writing JSON

Written values are lists of characters.  Objects are written in one of two
forms: compact, without any white space, or lined, with one member a line.
Names are written as they are, so they must need no escapes.
-/

/-- A written value. -/
abbrev Written :=
  List Char

/-- The numeral of a natural number. -/
def natural (n : Nat) : Written :=
  Nat.toDigits 10 n

/-- A text that needs no escapes, in quotes. -/
def quotedName (name : String) : Written :=
  '"' :: name.toList ++ ['"']

/-- The word for nothing. -/
def null : Written :=
  ['n', 'u', 'l', 'l']

/-- A value that may be missing. -/
def optional
    {α : Type}
    (write : α → Written) :
    Option α → Written
  | none => null
  | some value => write value

/-- A list without white space. -/
def compactList (items : List Written) : Written :=
  '[' :: List.intercalate [','] items ++ [']']

/-- A member without white space. -/
def compactMember : String × Written → Written
  | (name, value) => quotedName name ++ ':' :: value

/-- An object without white space. -/
def compactObject (members : List (String × Written)) : Written :=
  '\x7b' :: List.intercalate [','] (members.map compactMember) ++ ['\x7d']

/-- A member on a line of its own, without the line end. -/
def linedMember : String × Written → Written
  | (name, value) => ' ' :: ' ' :: quotedName name ++ ':' :: ' ' :: value

/-- An object with one member a line and no line end behind the closing brace. -/
def linedObject (members : List (String × Written)) : Written :=
  '\x7b' :: '\n' :: List.intercalate [',', '\n'] (members.map linedMember) ++ ['\n', '\x7d']

end Chip8.Json
