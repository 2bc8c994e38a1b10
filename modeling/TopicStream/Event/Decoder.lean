import TopicStream.Event.Record

/-!
# Decoding an event stream

The body of an event stream is a sequence of lines, each ended by a line feed with an optional
carriage return before it. A line holds a field, `name: value`, or a comment that begins with a
colon; a blank line ends a record. The body arrives in chunks cut anywhere, even inside a line or a
character: a line is looked at once its line feed has arrived.
-/

namespace TopicStream.Event

/-- The byte that ends a line. -/
def lineFeed : UInt8 := 0x0A

/-- The byte that may stand before a line feed. -/
def carriageReturn : UInt8 := 0x0D

/-- Adds a byte to the lines gathered so far: whole lines, last first, and the bytes of the line
under way, last first. -/
def gatherLine (acc : List Bytes × Bytes) (b : UInt8) : List Bytes × Bytes :=
  if b = lineFeed then (acc.2.reverse :: acc.1, []) else (acc.1, b :: acc.2)

/-- The whole lines of a byte sequence without their line feeds, and the bytes after the last. -/
def cutLines (bytes : Bytes) : List Bytes × Bytes :=
  let (lines, current) := bytes.foldl gatherLine ([], [])
  (lines.reverse, current.reverse)

/-- A line without its carriage return. -/
def dropReturn (line : Bytes) : Bytes :=
  if line.getLast? = some carriageReturn then line.dropLast else line

/-- What a line says. -/
inductive Line where
  /-- The end of a record. -/
  | blank
  /-- Nothing. -/
  | comment
  /-- A field and its value. -/
  | field (name value : List Char)
  deriving DecidableEq, Repr

namespace Line

/-- A value without the space that may stand before it. -/
def dropSpace : List Char → List Char
  | ' ' :: value => value
  | value => value

/-- Splits a line at its first colon; without one the whole line is the name of the field. -/
def ofChars : List Char → Line
  | [] => .blank
  | ':' :: _ => .comment
  | text => .field (text.takeWhile (· != ':')) (dropSpace ((text.dropWhile (· != ':')).drop 1))

/-- The line of a sequence of bytes, bytes that are no text being replaced. -/
def ofBytes (line : Bytes) : Line :=
  ofChars (Text.Utf8.decodeLossy (dropReturn line))

end Line

/-- The state of decoding: the bytes of the unfinished line and the fields of the unfinished
record. -/
structure Decoder where
  /-- The bytes after the last line feed. -/
  pending : Bytes
  /-- The name of the event, unless it was last given an empty one. -/
  event : Option String
  /-- The values of the data fields, last first. -/
  data : List (List Char)
  /-- The last id. -/
  id : Option String
  deriving DecidableEq, Repr

/-- The payload of the values of the data fields: nothing without any, else the value of their
lines as a JSON text, and if they are none an object that holds the text. -/
def payload? (data : List (List Char)) : Option Json :=
  if data.isEmpty then none
  else
    let text := ['\n'].intercalate data
    match Json.parseChars text with
    | .ok value => some value
    | .error _ => some (.object [("raw", .string (String.ofList text))])

namespace Decoder

/-- The state before the first byte. -/
def empty : Decoder := ⟨[], none, [], none⟩

instance : Inhabited Decoder := ⟨empty⟩

/-- Takes a field into the unfinished record; unknown fields are passed over. -/
def setField (d : Decoder) (name value : List Char) : Decoder :=
  if name = ['e', 'v', 'e', 'n', 't'] then
    { d with event := if value.isEmpty then none else some (String.ofList value) }
  else if name = ['d', 'a', 't', 'a'] then { d with data := value :: d.data }
  else if name = ['i', 'd'] then { d with id := some (String.ofList value) }
  else d

/-- The record of the fields collected so far. -/
def record (d : Decoder) : Record :=
  ⟨d.event.getD defaultName, d.id, payload? d.data.reverse⟩

/-- Takes a line. A blank one completes a record and begins the next. -/
def takeLine (d : Decoder) : Line → Option Record × Decoder
  | .blank => (some d.record, { d with event := none, data := [], id := none })
  | .comment => (none, d)
  | .field name value => (none, d.setField name value)

/-- Takes lines in order and gathers the records that they complete. -/
def takeLines (d : Decoder) : List Bytes → List Record × Decoder
  | [] => ([], d)
  | line :: lines =>
    let (record, d) := d.takeLine (Line.ofBytes line)
    let (records, d) := d.takeLines lines
    (record.toList ++ records, d)

/-- Takes a chunk and gathers the records that it completes. -/
def push (d : Decoder) (chunk : Bytes) : List Record × Decoder :=
  let (lines, pending) := cutLines (d.pending ++ chunk)
  let (records, d) := d.takeLines lines
  (records, { d with pending })

end Decoder

end TopicStream.Event
