import TopicStream.Json.Shape

/-!
# Event records

A record is one event of a stream: the name of the event, an optional id and an optional payload.
Its text is an object with the members `event`, `id` and `data`, of which absent ones are left out.
-/

namespace TopicStream

namespace Event

/-- The name of an event that is given none. -/
def defaultName : String := "message"

/-- The reserved name of the server's greeting. -/
def handshakeName : String := "PB_CONNECT"

/-- One event of a stream. -/
structure Record where
  /-- The name of the event, which is also the topic key of its listeners. -/
  event : String
  /-- The id of the event. -/
  id : Option String
  /-- The payload. -/
  payload : Option Json

namespace Record

/-- The record as an object. -/
def toJson (r : Record) : Json :=
  .object (("event", .string r.event) ::
    ((r.id.map fun id => ("id", Json.string id)).toList ++
      (r.payload.map fun payload => ("data", payload)).toList))

/-- The text of a record. -/
def render (r : Record) : String := r.toJson.render

/-- The client id carried by a greeting, empty if it carries none; nothing for other records. -/
def handshake? (r : Record) : Option String :=
  if r.event = handshakeName then
    some (((r.payload.bind (Json.member? "clientId")).bind Json.text?).getD "")
  else none

/-- A record of which some fields have been read; a field read as `null` is there without value. -/
structure Draft where
  /-- The name, if read. -/
  event : Option String
  /-- The id, if read. -/
  id : Option (Option String)
  /-- The payload, if read. -/
  payload : Option (Option Json)

/-- How a record is read from a text. -/
def shape : Json.Shape Draft Record where
  name := "EventRecord"
  fields :=
    [ { name := "event"
        isSet := fun d => d.event.isSome
        read := fun fuel d text => do
          let (v, rest) ← Json.textField fuel text
          .ok ({ d with event := some v }, rest)
        optional := false },
      { name := "id"
        isSet := fun d => d.id.isSome
        read := fun fuel d text => do
          let (v, rest) ← Json.optionalField (Json.textField fuel) text
          .ok ({ d with id := some v }, rest)
        optional := false },
      { name := "data"
        isSet := fun d => d.payload.isSome
        read := fun fuel d text => do
          let (v, rest) ← Json.optionalField (Json.valueField fuel) text
          .ok ({ d with payload := some v }, rest)
        optional := false } ]
  start := ⟨none, none, none⟩
  finish := fun d =>
    match d.event with
    | some event => .ok ⟨event, d.id.join, d.payload.join⟩
    | none => .error (.missingField "event")

/-- The record of a text. -/
def parse (text : String) : Except Json.ReadError Record := shape.parse text

end Record

end Event

end TopicStream
