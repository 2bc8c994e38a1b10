import TopicStream.Http.Address
import TopicStream.Http.Transport

/-!
# Messages and replies as bytes

The bytes of a message, and a reader that is fed the bytes of a reply one at a time. A body has an
announced length, is sent in pieces each of which announces its own, or lasts until the connection
ends; a connection that ends earlier has cut it.
-/

namespace TopicStream.Http

/-! ### Messages -/

/-- A line with its end. -/
def lineBytes (line : String) : Bytes := Text.Utf8.encode line.toList ++ [0x0D, 0x0A]

namespace Message

/-- Whether a message has a header of a name. -/
def hasHeader (m : Message) (name : String) : Bool := m.headers.any (sameName name ·.1)

/-- The headers that a message gets for its body and its address, unless it brings them. -/
def addedHeaders (m : Message) (authority : String) (bodyLength : Nat) : List (String × String) :=
  let offered := [("accept", "*/*"), ("host", authority)] ++
    if m.body.isSome then [("content-type", jsonType), ("content-length", Nat.repr bodyLength)]
    else []
  offered.filter fun h => !m.hasHeader h.1

/-- The bytes of a message to an address. -/
def encode (m : Message) (address : Address) : Bytes :=
  let body := (m.body.map fun v => Text.Utf8.encode v.text).getD []
  let headers := m.headers ++ m.addedHeaders address.authority body.length
  lineBytes (m.method.name ++ " " ++ address.target ++ " HTTP/1.1") ++
    headers.flatMap (fun h => lineBytes (h.1 ++ ": " ++ h.2)) ++ lineBytes "" ++ body

end Message

/-! ### Replies -/

/-- The head of a reply. -/
structure Head where
  /-- The status. -/
  status : Nat
  /-- The headers in order. -/
  headers : List (String × String)

namespace Head

/-- The value of a header. -/
def header? (h : Head) (name : String) : Option String :=
  (h.headers.find? (sameName name ·.1)).map (·.2)

/-- The header of a line. -/
def headerOf? (line : List Char) : Option (String × String) :=
  match line.span (· != ':') with
  | (name, ':' :: value) =>
    let isBlank (c : Char) := c == ' ' || c == '\t'
    let value := ((value.dropWhile isBlank).reverse.dropWhile isBlank).reverse
    some (String.ofList name, String.ofList value)
  | _ => none

/-- The status of a first line. -/
def status? (line : List Char) : Option Nat :=
  let (version, rest) := line.span (· != ' ')
  if "HTTP/1.".toList.isPrefixOf version then
    Address.decimal? (rest.drop 1 |>.takeWhile (· != ' '))
  else none

/-- The head of lines. -/
def ofLines? : List (List Char) → Option Head
  | [] => none
  | first :: lines => (status? first).map (⟨·, lines.filterMap headerOf?⟩)

/-- Whether a head only says that another will follow. -/
def isInterim (h : Head) : Bool := h.status < 200

end Head

/-- Where the reader of a reply stands. Lines under way are held last byte first. -/
inductive Reader.Phase where
  /-- In the head, after whole lines, last first. -/
  | head (lines : List (List Char)) (line : Bytes)
  /-- In a body of which so many bytes are missing. -/
  | counted (left : Nat)
  /-- In a body that lasts until the connection ends. -/
  | untilClose
  /-- In the line that announces the length of a piece. -/
  | pieceLength (line : Bytes)
  /-- In a piece of which so many bytes are missing. -/
  | piece (left : Nat)
  /-- In the end of line after a piece. -/
  | pieceEnd
  /-- In the lines after the last piece. -/
  | trailer (line : Bytes)
  /-- After the end of the body. -/
  | complete
  /-- After bytes that are no reply. -/
  | broken
  deriving DecidableEq

/-- A reader of a reply. -/
structure Reader where
  /-- The head, if it is complete. -/
  head? : Option Head
  /-- The bytes of the body that have not been taken, last first. -/
  gathered : Bytes
  /-- Where it stands. -/
  phase : Reader.Phase

namespace Reader

/-- The reader before the first byte. -/
def start : Reader := ⟨none, [], .head [] []⟩

/-- The text of a line that is held last byte first. -/
def lineText (line : Bytes) : List Char :=
  Text.Utf8.decodeLossy (Event.dropReturn line.reverse)

/-- Where a body of a length begins. -/
def bodyOf (length : Nat) : Phase := if length = 0 then .complete else .counted length

/-- Where the body after a head begins. -/
def bodyPhase (h : Head) : Phase :=
  if h.status = 204 || h.status = 304 then .complete
  else
    match h.header? "transfer-encoding", h.header? "content-length" with
    | some coding, _ =>
      if hasPart "chunked".toList (coding.toList.map Char.toLower) then .pieceLength []
      else .untilClose
    | none, some length => ((Address.decimal? length.toList).map bodyOf).getD .broken
    | none, none => .untilClose

/-- The value of hexadecimal digits. -/
def hexValue? (digits : List Char) : Option Nat :=
  if digits.isEmpty then none
  else digits.foldlM (fun n c => (Text.Hex.value? c).map (n * 16 + ·)) 0

/-- Where the piece that a line announces begins. -/
def piecePhase (line : List Char) : Phase :=
  let digits := line.takeWhile fun c => c != ';' && c != ' '
  match hexValue? digits with
  | some 0 => .trailer []
  | some length => .piece length
  | none => .broken

/-- The reader after the lines of a head. -/
def finishHead (r : Reader) (lines : List (List Char)) : Reader :=
  match Head.ofLines? lines with
  | some h => if h.isInterim then start else { r with head? := some h, phase := bodyPhase h }
  | none => { r with phase := .broken }

/-- The reader after one more byte. -/
def step (r : Reader) (b : UInt8) : Reader :=
  let isEnd := b == Event.lineFeed
  match r.phase with
  | .head lines line =>
    if isEnd then
      match lineText line with
      | [] => r.finishHead lines.reverse
      | text => { r with phase := .head (text :: lines) [] }
    else { r with phase := .head lines (b :: line) }
  | .counted left =>
    { r with gathered := b :: r.gathered, phase := bodyOf (left - 1) }
  | .untilClose => { r with gathered := b :: r.gathered }
  | .pieceLength line =>
    { r with phase := if isEnd then piecePhase (lineText line) else .pieceLength (b :: line) }
  | .piece left =>
    { r with
      gathered := b :: r.gathered
      phase := if left = 1 then .pieceEnd else .piece (left - 1) }
  | .pieceEnd => { r with phase := if isEnd then .pieceLength [] else .pieceEnd }
  | .trailer line =>
    if isEnd then
      { r with phase := if (lineText line).isEmpty then .complete else .trailer [] }
    else { r with phase := .trailer (b :: line) }
  | .complete | .broken => r

/-- The reader after some more bytes. -/
def push (r : Reader) (bytes : Bytes) : Reader := bytes.foldl step r

/-- The bytes of the body that have arrived and not been taken. -/
def takeBody (r : Reader) : Bytes × Reader := (r.gathered.reverse, { r with gathered := [] })

/-- Whether no further byte matters. -/
def isOver (r : Reader) : Bool := r.phase == .complete || r.phase == .broken

/-- Whether the end of the connection, here and now, cuts the reply. -/
def isCut (r : Reader) : Bool := !(r.phase == .complete || r.phase == .untilClose)

/-- What the peer has done when the connection has ended, or the reply is complete. -/
def peer (r : Reader) : Peer :=
  match r.head? with
  | some h => .answers ⟨h.status, h.header? "content-type", r.gathered.reverse, r.isCut⟩
  | none => .silent

end Reader

end TopicStream.Http
