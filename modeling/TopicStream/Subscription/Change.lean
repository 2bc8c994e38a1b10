import TopicStream.Json.Shape

/-!
# Record changes

The payload of events about the records of a collection: what happened and the record it happened
to. It is read from an object, or from an array of one or two items that holds the fields in order.
-/

namespace TopicStream.Subscription

/-- A change of a record. -/
structure Change where
  /-- What happened. -/
  action : String
  /-- The record, null if there is none. -/
  record : Json

namespace Change

/-- What messages call a change. -/
def title : String := "struct RecordEvent"

/-- The action of a value, which must be a string. -/
def action? : Json → Except Json.Mismatch String
  | .string s => .ok s
  | v => .error (.invalidType v.found "a string")

/-- The change of a payload. -/
def ofJson : Json → Except Json.Mismatch Change
  | .array [] => .error (.invalidLength 0 (title ++ " with 2 elements"))
  | .array (first :: rest) => do
    let action ← action? first
    match rest with
    | [] => .ok ⟨action, .null⟩
    | [record] => .ok ⟨action, record⟩
    | _ => .error (.invalidLength (rest.length + 1) "fewer elements in array")
  | .object members => do
    match Members.get? "action" members with
    | some v =>
      let action ← action? v
      .ok ⟨action, (Members.get? "record" members).getD .null⟩
    | none => .error (.missingField "action")
  | v => .error (.invalidType v.found title)

/-- The change as an object. -/
def toJson (c : Change) : Json := .object [("action", .string c.action), ("record", c.record)]

/-- The text of a change. -/
def render (c : Change) : String := c.toJson.render

end Change

end TopicStream.Subscription
