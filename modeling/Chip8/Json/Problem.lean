namespace Chip8.Json

/-!
# Problems

What can be wrong with a JSON text, and where.  A reader works from left to
right and stops at the first problem, which records how many bytes had not yet
been read; line and column follow from that number.
-/

/-- What is wrong with a text. -/
inductive Cause where
  | unfinishedList
  | unfinishedObject
  | unfinishedString
  | missingValue
  | expectedColon
  | expectedCommaOrBracket
  | expectedCommaOrBrace
  | expectedWord
  | expectedValue
  | invalidEscape
  | invalidNumber
  | numberOutOfRange
  | controlCharacter
  | keyNotString
  | loneSurrogate
  | trailingComma
  | trailingCharacters
  | unfinishedSurrogate
  /-- The text is well formed so far but does not fit what is read from it. -/
  | mismatch (message : String)
  deriving Repr, DecidableEq

/-- The three kinds of causes. -/
inductive Kind where
  | truncated
  | malformed
  | mismatched
  deriving Repr, DecidableEq

namespace Cause

/-- Whether the text ends too early, is malformed or does not fit. -/
def kind : Cause → Kind
  | .unfinishedList | .unfinishedObject | .unfinishedString | .missingValue => .truncated
  | .mismatch _ => .mismatched
  | _ => .malformed

/-- The text that describes a cause. -/
def message : Cause → String
  | .unfinishedList => "EOF while parsing a list"
  | .unfinishedObject => "EOF while parsing an object"
  | .unfinishedString => "EOF while parsing a string"
  | .missingValue => "EOF while parsing a value"
  | .expectedColon => "expected `:`"
  | .expectedCommaOrBracket => "expected `,` or `]`"
  | .expectedCommaOrBrace => "expected `,` or `\x7d`"
  | .expectedWord => "expected ident"
  | .expectedValue => "expected value"
  | .invalidEscape => "invalid escape"
  | .invalidNumber => "invalid number"
  | .numberOutOfRange => "number out of range"
  | .controlCharacter =>
      "control character (\\u0000-\\u001F) found while parsing a string"
  | .keyNotString => "key must be a string"
  | .loneSurrogate => "lone leading surrogate in hex escape"
  | .trailingComma => "trailing comma"
  | .trailingCharacters => "trailing characters"
  | .unfinishedSurrogate => "unexpected end of hex escape"
  | .mismatch message => message

end Cause

/-- The number of bytes that a text takes. -/
def byteSize (text : List Char) : Nat :=
  text.foldl (fun size c => size + c.utf8Size) 0

/-- A cause and the number of bytes that had not yet been read. -/
structure Problem where
  cause : Cause
  left : Nat
  deriving Repr, DecidableEq

namespace Problem

/-- A problem found before the rest of the text. -/
def before
    (cause : Cause)
    (rest : List Char) :
    Problem where
  cause :=
    cause
  left :=
    byteSize rest

/-- A problem found in the first byte of the rest, or at the end of the text. -/
def within
    (cause : Cause)
    (rest : List Char) :
    Problem where
  cause :=
    cause
  left :=
    byteSize rest - 1

end Problem

/-- A cause with its place: lines count from one, columns count the bytes read on the line. -/
structure Error where
  cause : Cause
  line : Nat
  column : Nat
  deriving Repr, DecidableEq

namespace Error

/-- The byte that ends a line. -/
def lineEnd : UInt8 := 10

/-- Find the place of a problem in the whole text. -/
def ofProblem
    (text : List Char)
    (problem : Problem) :
    Error :=
  let read := (text.flatMap String.utf8EncodeChar).take (byteSize text - problem.left)
  { cause := problem.cause
    line := 1 + read.count lineEnd
    column := (read.reverse.takeWhile (· != lineEnd)).length }

/-- The text that describes an error. -/
def message (error : Error) : String :=
  error.cause.message ++ s!" at line {error.line} column {error.column}"

end Error

end Chip8.Json
