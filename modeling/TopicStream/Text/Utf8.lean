/-!
# UTF-8

Texts as byte sequences and back. Decoding is one left-to-right pass of a small state machine
whose outputs are *units*: a character, or `none` for a maximal run of bytes that begins like a
character and cannot be completed. Strict decoding refuses such runs, lenient decoding writes one
replacement character for each.
-/

namespace TopicStream

/-- A sequence of bytes, as it travels over a connection. -/
abbrev Bytes := List UInt8

namespace Text.Utf8

/-- The encoding of a text: the encodings of its characters, one after the other. -/
def encode (text : List Char) : Bytes :=
  text.flatMap String.utf8EncodeChar

/-- Where decoding stands between two bytes. -/
inductive State where
  /-- At the boundary between two characters. -/
  | boundary
  /-- Inside a character: `left + 1` bytes are missing, the next of them lies in `low..high`, and
  the bits read so far make the number `bits`. -/
  | inside (left low high bits : Nat)
  deriving DecidableEq, Repr

/-- What a byte met at a boundary completes, and where it leads. Lead bytes whose characters would
be overlong, surrogates or beyond the last code point narrow the range of the following byte. -/
def begin (b : UInt8) : List (Option Char) × State :=
  let n := b.toNat
  if n < 0x80 then ([some (Char.ofNat n)], .boundary)
  -- Continuation bytes, and leads of characters that a single byte can hold.
  else if n < 0xC2 then ([none], .boundary)
  else if n < 0xE0 then ([], .inside 0 0x80 0xBF (n - 0xC0))
  else if n = 0xE0 then ([], .inside 1 0xA0 0xBF 0)
  else if n = 0xED then ([], .inside 1 0x80 0x9F 0xD)
  else if n < 0xF0 then ([], .inside 1 0x80 0xBF (n - 0xE0))
  else if n = 0xF0 then ([], .inside 2 0x90 0xBF 0)
  else if n < 0xF4 then ([], .inside 2 0x80 0xBF (n - 0xF0))
  else if n = 0xF4 then ([], .inside 2 0x80 0x8F 4)
  else ([none], .boundary)

/-- The units that one byte completes, and the state after it. A byte that cannot continue the
character under way ends its run and is looked at again as the start of the next. -/
def step : State → UInt8 → List (Option Char) × State
  | .boundary, b => begin b
  | .inside left low high bits, b =>
    if low ≤ b.toNat ∧ b.toNat ≤ high then
      let bits := bits * 64 + (b.toNat - 0x80)
      match left with
      | 0 => ([some (Char.ofNat bits)], .boundary)
      | left + 1 => ([], .inside left 0x80 0xBF bits)
    else
      (none :: (begin b).1, (begin b).2)

/-- One step of the pass over a whole sequence; units are gathered last first. -/
def advance (acc : List (Option Char) × State) (b : UInt8) : List (Option Char) × State :=
  ((step acc.2 b).1.reverse ++ acc.1, (step acc.2 b).2)

/-- The units of a byte sequence. A character still under way at the end is an incomplete run. -/
def units (bytes : Bytes) : List (Option Char) :=
  match bytes.foldl advance ([], .boundary) with
  | (gathered, .boundary) => gathered.reverse
  | (gathered, .inside ..) => (none :: gathered).reverse

/-- The character that stands for bytes that are not UTF-8. -/
def replacement : Char := '\uFFFD'

/-- Lenient decoding: one replacement character for each run of bytes that is no character. -/
def decodeLossy (bytes : Bytes) : List Char :=
  (units bytes).map (·.getD replacement)

/-- Strict decoding: nothing unless every unit is a character. -/
def decode? (bytes : Bytes) : Option (List Char) :=
  (units bytes).mapM id

end Text.Utf8

end TopicStream
