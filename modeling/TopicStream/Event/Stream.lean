import TopicStream.Event.Decoder

/-!
# Streams of records

A stream turns the items of a body, chunks and errors, into records and errors. It takes an item
only when no decoded record is left, passes errors on as they are, and keeps the unfinished record
across them.
-/

namespace TopicStream.Event

/-- A stream of records over a body whose errors have type `ε`. -/
structure RecordStream (ε : Type) where
  /-- The items of the body that have arrived and have not been taken. -/
  input : List (Except ε Bytes)
  /-- The decoder of the chunks taken so far. -/
  decoder : Decoder
  /-- The records decoded and not yet handed out. -/
  ready : List Record

namespace RecordStream

variable {ε : Type}

/-- The stream of a body of which the given items have arrived. -/
def ofInput (input : List (Except ε Bytes)) : RecordStream ε :=
  ⟨input, .empty, []⟩

/-- The stream after one more item of the body has arrived. -/
def arrive (s : RecordStream ε) (item : Except ε Bytes) : RecordStream ε :=
  { s with input := s.input ++ [item] }

/-- What a stream does next. -/
inductive Progress (ε : Type) where
  /-- Hands out a record or an error. -/
  | yields (item : Except ε Record) (after : RecordStream ε)
  /-- Takes a chunk. -/
  | takes (after : RecordStream ε)
  /-- Nothing, until a further item arrives. -/
  | starves

/-- One step of a stream. -/
def advance (s : RecordStream ε) : Progress ε :=
  match s.ready, s.input with
  | record :: ready, _ => .yields (.ok record) { s with ready }
  | [], .error e :: input => .yields (.error e) { s with input }
  | [], .ok chunk :: input =>
    let (records, decoder) := s.decoder.push chunk
    .takes ⟨input, decoder, records⟩
  | [], [] => .starves

/-- All that a stream hands out until it starves. -/
def toList (s : RecordStream ε) : List (Except ε Record) :=
  match _h : s.advance with
  | .yields item after => item :: after.toList
  | .takes after => after.toList
  | .starves => []
termination_by (s.input.length, s.ready.length)
decreasing_by
  all_goals
    simp only [advance] at _h
    split at _h <;> simp_all [Prod.lex_def] <;> grind

end RecordStream

/-- The records and errors of a whole body. -/
def decodeAll {ε : Type} (items : List (Except ε Bytes)) : List (Except ε Record) :=
  (RecordStream.ofInput items).toList

end TopicStream.Event
