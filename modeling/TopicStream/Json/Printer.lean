import TopicStream.Json.Basic
import TopicStream.Number.Shortest
import TopicStream.Text.Hex

/-!
# Compact JSON texts

The text of a value: no blanks, members in the order in which they are listed, short escapes where
there are any, and all characters that need no escape as they are.
-/

namespace TopicStream

namespace Number

/-- The text of an integer. -/
def integerText (i : Int) : List Char :=
  if i < 0 then '-' :: Nat.toDigits 10 i.natAbs else Nat.toDigits 10 i.natAbs

/-- The text of a number. -/
def text : Number → List Char
  | .integer i => integerText i
  | .float x => Shortest.text x

end Number

namespace Json

/-- A character inside a string. -/
def escapeChar (c : Char) : List Char :=
  if c = '"' then ['\\', '"']
  else if c = '\\' then ['\\', '\\']
  else if c = '\n' then ['\\', 'n']
  else if c = '\r' then ['\\', 'r']
  else if c = '\t' then ['\\', 't']
  else if c.toNat = 8 then ['\\', 'b']
  else if c.toNat = 12 then ['\\', 'f']
  else if c.toNat < 0x20 then
    ['\\', 'u', '0', '0', Text.Hex.lower (c.toNat / 16), Text.Hex.lower (c.toNat % 16)]
  else [c]

/-- A string between quotes. -/
def quote (s : String) : List Char :=
  '"' :: (s.toList.flatMap escapeChar ++ ['"'])

mutual

/-- The text of a value. -/
def text : Json → List Char
  | .null => ['n', 'u', 'l', 'l']
  | .bool true => ['t', 'r', 'u', 'e']
  | .bool false => ['f', 'a', 'l', 's', 'e']
  | .number n => n.text
  | .string s => quote s
  | .array [] => ['[', ']']
  | .array (v :: rest) => '[' :: (text v ++ itemsText rest)
  | .object [] => ['{', '}']
  | .object ((k, v) :: rest) => '{' :: (quote k ++ ':' :: (text v ++ membersText rest))

/-- The text of an array after one of its items. -/
def itemsText : List Json → List Char
  | [] => [']']
  | v :: rest => ',' :: (text v ++ itemsText rest)

/-- The text of an object after one of its members. -/
def membersText : List (String × Json) → List Char
  | [] => ['}']
  | (k, v) :: rest => ',' :: (quote k ++ ':' :: (text v ++ membersText rest))

end

/-- The text of a value as a string. -/
def render (j : Json) : String := String.ofList j.text

end Json

end TopicStream
