import TopicStream.Text.Utf8

/-!
# Faults of JSON texts

Why a text is no JSON value, and where that showed. Places count lines from one and bytes within a
line. While a text is read, a fault is noted by the text that is left; the place is worked out at
the end, against the whole text.
-/

namespace TopicStream.Json

/-- Why a text is no JSON value. -/
inductive Cause where
  /-- The text ends inside an array. -/
  | endInArray
  /-- The text ends inside an object. -/
  | endInObject
  /-- The text ends inside a string. -/
  | endInString
  /-- The text ends where a value is due. -/
  | endInValue
  /-- A key is not followed by a colon. -/
  | expectedColon
  /-- An item is followed by neither a comma nor the end of its array. -/
  | expectedItemEnd
  /-- A member is followed by neither a comma nor the end of its object. -/
  | expectedMemberEnd
  /-- A word other than the three literal names. -/
  | expectedWord
  /-- A character that begins no value. -/
  | expectedValue
  /-- A backslash before a character that makes no escape. -/
  | invalidEscape
  /-- A malformed number. -/
  | invalidNumber
  /-- A number beyond the floating-point range. -/
  | numberOutOfRange
  /-- A control character inside a string. -/
  | controlCharacter
  /-- A key that is not a string. -/
  | keyNotString
  /-- An escaped surrogate without its partner. -/
  | loneSurrogate
  /-- A comma before the end of an array or object. -/
  | trailingComma
  /-- Text after the value. -/
  | trailingText
  /-- An escaped first surrogate not followed by another escape. -/
  | brokenSurrogatePair
  /-- More nested arrays and objects than are accepted. -/
  | tooDeep
  deriving DecidableEq, Repr

namespace Cause

/-- The wording of a cause. -/
def message : Cause → String
  | endInArray => "EOF while parsing a list"
  | endInObject => "EOF while parsing an object"
  | endInString => "EOF while parsing a string"
  | endInValue => "EOF while parsing a value"
  | expectedColon => "expected `:`"
  | expectedItemEnd => "expected `,` or `]`"
  | expectedMemberEnd => "expected `,` or `\x7d`"
  | expectedWord => "expected ident"
  | expectedValue => "expected value"
  | invalidEscape => "invalid escape"
  | invalidNumber => "invalid number"
  | numberOutOfRange => "number out of range"
  | controlCharacter => "control character (\\u0000-\\u001F) found while parsing a string"
  | keyNotString => "key must be a string"
  | loneSurrogate => "lone leading surrogate in hex escape"
  | trailingComma => "trailing comma"
  | trailingText => "trailing characters"
  | brokenSurrogatePair => "unexpected end of hex escape"
  | tooDeep => "recursion limit exceeded"

/-- Whether the text might have been completed to a value by more text. -/
def isEnd : Cause → Bool
  | endInArray | endInObject | endInString | endInValue => true
  | _ => false

end Cause

/-- A cause and its place. -/
structure Fault where
  /-- Why the text is no value. -/
  cause : Cause
  /-- The line, counted from one. -/
  line : Nat
  /-- The bytes of that line up to the place. -/
  column : Nat
  deriving DecidableEq, Repr

/-- The wording of a fault. -/
def Fault.message (f : Fault) : String :=
  f.cause.message ++ " at line " ++ (Nat.repr f.line) ++ " column " ++ (Nat.repr f.column)

/-- A fault noted while reading. -/
structure Stop where
  /-- Why reading stopped. -/
  cause : Cause
  /-- The text that is left. -/
  rest : List Char
  /-- How many bytes of it belong to the place. -/
  past : Nat

namespace Stop

/-- A fault shown by the next character. -/
def next (cause : Cause) (rest : List Char) : Stop := ⟨cause, rest, 1⟩

/-- A fault shown by what has been read. -/
def here (cause : Cause) (rest : List Char) : Stop := ⟨cause, rest, 0⟩

/-- The place of a fault in the whole text. -/
def locate (stop : Stop) (whole : List Char) : Fault :=
  let bytes := Text.Utf8.encode whole
  let taken := bytes.length - (Text.Utf8.encode stop.rest).length + stop.past
  let before := bytes.take taken
  { cause := stop.cause
    line := before.count 0x0A + 1
    column := (before.reverse.takeWhile (· != 0x0A)).length }

end Stop

end TopicStream.Json
