import TopicStream.Json.Basic
import TopicStream.Json.Fault
import TopicStream.Text.Hex

/-!
# Reading JSON texts

A recursive-descent reader. Blanks are the space, tab, line feed and carriage return; arrays and
objects nest up to `maxDepth` levels; of members with one key the last counts. The first fault met
from left to right is the one reported.

The readers of arrays, objects and strings are bounded by `fuel`; the length of the text is always
enough, because every round consumes a character.
-/

namespace TopicStream.Json

/-- A reader takes a beginning of the text and leaves the rest. -/
abbrev Reader (α : Type) := List Char → Except Stop (α × List Char)

/-- The number of nested arrays and objects that are accepted. -/
def maxDepth : Nat := 127

/-- Whether a character may stand between the parts of a value. -/
def isBlank (c : Char) : Bool :=
  c == ' ' || c == '\t' || c == '\n' || c == '\r'

/-- The text after its leading blanks. -/
def skipBlanks (text : List Char) : List Char :=
  text.dropWhile isBlank

/-- Reads the remaining letters of a word. -/
def readWord : List Char → List Char → Except Stop (List Char)
  | [], text => .ok text
  | _ :: _, [] => .error (.here .endInValue [])
  | w :: word, c :: text =>
    if c = w then readWord word text else .error (.next .expectedWord (c :: text))

/-! ### Strings -/

/-- The value of four hexadecimal digits. -/
def hexValue4? (a b c d : Char) : Option Nat := do
  let a ← Text.Hex.value? a
  let b ← Text.Hex.value? b
  let c ← Text.Hex.value? c
  let d ← Text.Hex.value? d
  some (((a * 16 + b) * 16 + c) * 16 + d)

/-- Reads four hexadecimal digits. They take four bytes of the text, whatever these are. -/
def readHex4 (text : List Char) : Except Stop (Nat × List Char) :=
  -- Four bytes are taken before any is looked at, even if the fourth lies inside a character.
  let bad : Except Stop (Nat × List Char) :=
    if (Text.Utf8.encode (text.take 4)).length < 4 then .error (.here .endInString [])
    else .error ⟨.invalidEscape, text, 4⟩
  match text with
  | a :: b :: c :: d :: rest =>
    match hexValue4? a b c d with
    | some n => .ok (n, rest)
    | none => bad
  | _ => bad

/-- Whether a number is the first half of a surrogate pair. -/
def isLeading (n : Nat) : Bool := 0xD800 ≤ n && n ≤ 0xDBFF

/-- Whether a number is the second half of a surrogate pair. -/
def isTrailing (n : Nat) : Bool := 0xDC00 ≤ n && n ≤ 0xDFFF

/-- Reads the second half of a surrogate pair. -/
def readTrailing (leading : Nat) : Reader Char
  | [] => .error (.here .endInString [])
  | '\\' :: [] => .error (.here .endInString [])
  | '\\' :: 'u' :: rest => do
    let (n, rest) ← readHex4 rest
    if isTrailing n then
      .ok (Char.ofNat (0x10000 + (leading - 0xD800) * 0x400 + (n - 0xDC00)), rest)
    else .error (.here .loneSurrogate rest)
  | '\\' :: rest => .error (.next .brokenSurrogatePair rest)
  | rest => .error (.next .brokenSurrogatePair rest)

/-- Reads an escape after its backslash. -/
def readEscape : Reader Char
  | [] => .error (.here .endInString [])
  | 'u' :: rest => do
    let (n, rest) ← readHex4 rest
    if isTrailing n then .error (.here .loneSurrogate rest)
    else if isLeading n then readTrailing n rest
    else .ok (Char.ofNat n, rest)
  | c :: rest =>
    if c = '"' ∨ c = '\\' ∨ c = '/' then .ok (c, rest)
    else if c = 'b' then .ok (Char.ofNat 8, rest)
    else if c = 'f' then .ok (Char.ofNat 12, rest)
    else if c = 'n' then .ok ('\n', rest)
    else if c = 'r' then .ok ('\r', rest)
    else if c = 't' then .ok ('\t', rest)
    else .error (.next .invalidEscape (c :: rest))

/-- Reads a string after its opening quote; the characters read so far are given last first. -/
def readStringFrom : (fuel : Nat) → (read : List Char) → Reader String
  | 0, _, text => .error (.here .endInString text)
  | _ + 1, _, [] => .error (.here .endInString [])
  | fuel + 1, read, c :: text =>
    if c = '"' then .ok (String.ofList read.reverse, text)
    else if c = '\\' then do
      let (d, text) ← readEscape text
      readStringFrom fuel (d :: read) text
    else if c.toNat < 0x20 then .error (.next .controlCharacter (c :: text))
    else readStringFrom fuel (c :: read) text

/-- Reads a string after its opening quote. -/
def readString (fuel : Nat) : Reader String :=
  readStringFrom fuel []

/-! ### Numbers -/

/-- The value of a decimal digit. -/
def digitValue (c : Char) : Nat := c.toNat - 0x30

/-- Continues a decimal number with the digits of the text as long as it stays below `limit`. -/
def gather (limit : Nat) : (soFar : Nat) → List Char → Nat × List Char
  | soFar, [] => (soFar, [])
  | soFar, c :: text =>
    if c.isDigit && soFar * 10 + digitValue c < limit then
      gather limit (soFar * 10 + digitValue c) text
    else (soFar, c :: text)

/-- Whether a text begins with a digit. -/
def startsWithDigit : List Char → Bool
  | c :: _ => c.isDigit
  | [] => false

/-- The first number too large for a significand. -/
def significandLimit : Nat := UInt64.size

/-- The first number too large for an exponent. -/
def exponentLimit : Nat := Nat.pow 2 31

/-- The place of `value * 10 ^ exponent`, each step rounded; nothing if out of range. Powers of ten
beyond the floating-point range are divided out in steps of `10 ^ 308`. -/
def scaleByTen : (steps : Nat) → (place : Nat) → (exponent : Int) → Option Nat
  | steps, place, exponent =>
    if exponent.natAbs ≤ 308 then
      let power := Binary64.placeOfNat (Nat.pow 10 exponent.natAbs)
      if 0 ≤ exponent then
        let product := Binary64.mulPlace place power
        if product < Binary64.overflow then some product else none
      else some (Binary64.divPlace place power)
    else if place = 0 then some 0
    else if 0 ≤ exponent then none
    else
      match steps with
      | 0 => some 0
      | steps + 1 =>
        let power := Binary64.placeOfNat (Nat.pow 10 308)
        scaleByTen steps (Binary64.divPlace place power) (exponent + 308)

/-- The float of a significand and an exponent, for a literal that ends before `rest`. -/
def finishFloat (negative : Bool) (significand : Nat) (exponent : Int) : Reader Number := fun rest =>
  match scaleByTen 4 (Binary64.placeOfNat significand) exponent with
  | some place => .ok (.float ⟨negative, place⟩, rest)
  | none => .error (.here .numberOutOfRange rest)

/-- Reads the digits of an exponent. One too large makes the number zero or puts it out of range. -/
def readExponentDigits (negative : Bool) (significand : Nat) (exponent : Int) (shrinks : Bool) :
    Reader Number
  | [] => .error (.here .endInValue [])
  | c :: text =>
    if c.isDigit then
      let (n, rest) := gather exponentLimit (digitValue c) text
      if startsWithDigit rest then
        -- The digit that is too much has been taken when the fault shows.
        if significand ≠ 0 ∧ shrinks = false then .error (.here .numberOutOfRange (rest.drop 1))
        else .ok (.float ⟨negative, 0⟩, rest.dropWhile Char.isDigit)
      else
        finishFloat negative significand (if shrinks then exponent - n else exponent + n) rest
    else .error (.next .invalidNumber (c :: text))

/-- Reads an exponent after its letter. -/
def readExponent (negative : Bool) (significand : Nat) (exponent : Int) : Reader Number
  | '+' :: text => readExponentDigits negative significand exponent false text
  | '-' :: text => readExponentDigits negative significand exponent true text
  | text => readExponentDigits negative significand exponent false text

/-- Reads what may follow the digits of a float: an exponent. -/
def readAfterDigits (negative : Bool) (significand : Nat) (exponent : Int) : Reader Number
  | c :: text =>
    if c = 'e' ∨ c = 'E' then readExponent negative significand exponent text
    else finishFloat negative significand exponent (c :: text)
  | [] => finishFloat negative significand exponent []

/-- Reads a fraction after its point. Digits that the significand cannot hold are passed over. -/
def readFraction (negative : Bool) (significand : Nat) (exponent : Int) : Reader Number := fun text =>
  let (s, rest) := gather significandLimit significand text
  let count := text.length - rest.length
  if startsWithDigit rest then
    readAfterDigits negative s (exponent - count) (rest.dropWhile Char.isDigit)
  else if count = 0 then
    match rest with
    | [] => .error (.next .endInValue [])
    | _ :: _ => .error (.next .invalidNumber rest)
  else readAfterDigits negative s (exponent - count) rest

/-- The number of a literal of digits only: an integer if it fits, and not for minus zero. -/
def integerOrFloat (negative : Bool) (significand : Nat) : Number :=
  if negative then
    if significand = 0 ∨ Nat.pow 2 63 < significand then
      .float ⟨true, Binary64.placeOfNat significand⟩
    else .integer (-(significand : Int))
  else .integer significand

/-- Reads what may follow the integer digits of a number. -/
def readAfterInteger (negative : Bool) (significand : Nat) : Reader Number
  | '.' :: text => readFraction negative significand 0 text
  | c :: text =>
    if c = 'e' ∨ c = 'E' then readExponent negative significand 0 text
    else .ok (integerOrFloat negative significand, c :: text)
  | [] => .ok (integerOrFloat negative significand, [])

/-- Reads what may follow integer digits of which `dropped` did not fit into the significand. -/
def readAfterLongInteger (negative : Bool) (significand dropped : Nat) : Reader Number
  | '.' :: text => readFraction negative significand dropped text
  | text => readAfterDigits negative significand dropped text

/-- Reads a number after its sign. -/
def readNumber (negative : Bool) : Reader Number
  | [] => .error (.here .endInValue [])
  | c :: text =>
    if c = '0' then
      if startsWithDigit text then .error (.next .invalidNumber text)
      else readAfterInteger negative 0 text
    else if c.isDigit then
      let (s, rest) := gather significandLimit (digitValue c) text
      if startsWithDigit rest then
        let after := rest.dropWhile Char.isDigit
        readAfterLongInteger negative s (rest.length - after.length) after
      else readAfterInteger negative s rest
    else .error (.next .invalidNumber (c :: text))

/-! ### Arrays and objects -/

/-- The text of the next item of an array, or nothing and the text after the closing bracket. -/
def nextItem (first : Bool) (text : List Char) : Except Stop (Option (List Char) × List Char) :=
  match skipBlanks text with
  | [] => .error (.next .endInArray [])
  | c :: rest =>
    if c = ']' then .ok (none, rest)
    else if first then .ok (some (c :: rest), [])
    else if c = ',' then
      match skipBlanks rest with
      | [] => .error (.next .endInValue [])
      | d :: rest =>
        if d = ']' then .error (.next .trailingComma (d :: rest)) else .ok (some (d :: rest), [])
    else .error (.next .expectedItemEnd (c :: rest))

/-- The text after the opening quote of the next key of an object, or nothing and the text after
the closing brace. -/
def nextKey (first : Bool) (text : List Char) : Except Stop (Option (List Char) × List Char) :=
  match skipBlanks text with
  | [] => .error (.next .endInObject [])
  | c :: rest =>
    if c = '}' then .ok (none, rest)
    else if first then
      if c = '"' then .ok (some rest, []) else .error (.next .keyNotString (c :: rest))
    else if c = ',' then
      match skipBlanks rest with
      | [] => .error (.next .endInValue [])
      | d :: rest =>
        if d = '"' then .ok (some rest, [])
        else if d = '}' then .error (.next .trailingComma (d :: rest))
        else .error (.next .keyNotString (d :: rest))
    else .error (.next .expectedMemberEnd (c :: rest))

/-- The text after the colon that follows a key. -/
def afterColon (text : List Char) : Except Stop (List Char) :=
  match skipBlanks text with
  | [] => .error (.next .endInObject [])
  | c :: rest => if c = ':' then .ok rest else .error (.next .expectedColon (c :: rest))

/-- Reads the items of an array up to its closing bracket; those read so far are given last
first. -/
def readItems (value : Reader Json) :
    (fuel : Nat) → (first : Bool) → (read : List Json) → Reader (List Json)
  | 0, _, _, text => .error (.here .endInArray text)
  | fuel + 1, first, read, text => do
    match ← nextItem first text with
    | (none, rest) => .ok (read.reverse, rest)
    | (some item, _) =>
      let (v, rest) ← value item
      readItems value fuel false (v :: read) rest

/-- Reads the members of an object up to its closing brace into those read so far. -/
def readMembers (value : Reader Json) (keyFuel : Nat) :
    (fuel : Nat) → (first : Bool) → (read : List (String × Json)) → Reader (List (String × Json))
  | 0, _, _, text => .error (.here .endInObject text)
  | fuel + 1, first, read, text => do
    match ← nextKey first text with
    | (none, rest) => .ok (read, rest)
    | (some key, _) =>
      let (k, rest) ← readString keyFuel key
      let rest ← afterColon rest
      let (v, rest) ← value rest
      readMembers value keyFuel fuel false (Members.insert k v read) rest

/-! ### Values -/

/-- Reads a value that is no array and no object and begins with the given character. -/
def readScalar (fuel : Nat) (c : Char) (rest : List Char) : Except Stop (Json × List Char) :=
  if c = 'n' then do
    let rest ← readWord ['u', 'l', 'l'] rest
    .ok (.null, rest)
  else if c = 't' then do
    let rest ← readWord ['r', 'u', 'e'] rest
    .ok (.bool true, rest)
  else if c = 'f' then do
    let rest ← readWord ['a', 'l', 's', 'e'] rest
    .ok (.bool false, rest)
  else if c = '-' then do
    let (n, rest) ← readNumber true rest
    .ok (.number n, rest)
  else if c.isDigit then do
    let (n, rest) ← readNumber false (c :: rest)
    .ok (.number n, rest)
  else if c = '"' then do
    let (s, rest) ← readString fuel rest
    .ok (.string s, rest)
  else .error (.next .expectedValue (c :: rest))

/-- Reads a value with at most `depth` nested arrays and objects. -/
def readValue (fuel : Nat) : (depth : Nat) → Reader Json
  | 0, text =>
    match skipBlanks text with
    | [] => .error (.next .endInValue [])
    | c :: rest =>
      if c = '[' ∨ c = '{' then .error (.next .tooDeep (c :: rest)) else readScalar fuel c rest
  | depth + 1, text =>
    match skipBlanks text with
    | [] => .error (.next .endInValue [])
    | c :: rest =>
      if c = '[' then do
        let (items, rest) ← readItems (readValue fuel depth) fuel true [] rest
        .ok (.array items, rest)
      else if c = '{' then do
        let (members, rest) ← readMembers (readValue fuel depth) fuel fuel true [] rest
        .ok (.object members, rest)
      else readScalar fuel c rest

/-- Runs a reader on a whole text, after which only blanks may follow. -/
def readWhole (read : Nat → Reader α) (text : List Char) : Except Stop α := do
  let (v, rest) ← read (text.length + 1) text
  match skipBlanks rest with
  | [] => .ok v
  | c :: rest => .error (.next .trailingText (c :: rest))

/-- The value of a JSON text. -/
def parseChars (text : List Char) : Except Fault Json :=
  (readWhole (readValue · maxDepth) text).mapError (·.locate text)

/-- The value of a JSON text. -/
def parse (text : String) : Except Fault Json :=
  parseChars text.toList

/-- The value of a JSON text given as UTF-8; nothing for any other bytes. -/
def parseBytes? (bytes : Bytes) : Option Json := do
  let text ← Text.Utf8.decode? bytes
  (parseChars text).toOption

end TopicStream.Json
