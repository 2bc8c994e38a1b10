import TopicStream.Json.Printer
import TopicStream.Text.Form

/-!
# Request addresses

The address of a request: base and path joined by exactly one slash, then the query parameters that
are not null. A string parameter is sent as it is, any other value as its JSON text.
-/

namespace TopicStream.Http

/-- The path of the event stream and of the announcements. -/
def realtimePath : String := "/api/realtime"

/-- The text that a query parameter is sent as; null is not sent. -/
def parameter? : Json → Option String
  | .null => none
  | .string s => some s
  | v => some v.render

/-- The parameters of a query that are sent, in ascending order of their keys. -/
def parameters (query : KeyMap Json) : List (String × String) :=
  query.members.filterMap fun m => (parameter? m.2).map (m.1, ·)

/-- Base and path joined by exactly one slash. -/
def joinPath (base path : List Char) : List Char :=
  (if base.getLast? = some '/' then base else base ++ ['/']) ++ path.dropWhile (· == '/')

/-- The address of a path below a base, with a query. -/
def joinUrl (base path : String) (query : KeyMap Json) : String :=
  let url := joinPath base.toList path.toList
  match parameters query with
  | [] => String.ofList url
  | sent =>
    String.ofList (url ++ (if url.contains '?' then '&' else '?') :: Text.Form.encodePairs sent)

end TopicStream.Http
