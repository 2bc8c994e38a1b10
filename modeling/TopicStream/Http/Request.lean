import TopicStream.Http.Url

/-!
# Requests

What a caller says about a single request: method, query, headers and a JSON body.
-/

namespace TopicStream.Http

/-- The method of a request. -/
inductive Method where
  /-- Reads. -/
  | get
  /-- Creates or commands. -/
  | post
  /-- Replaces. -/
  | put
  /-- Changes in part. -/
  | patch
  /-- Removes. -/
  | delete
  deriving DecidableEq, Repr, Inhabited

/-- The name of a method. -/
def Method.name : Method → String
  | get => "GET"
  | post => "POST"
  | put => "PUT"
  | patch => "PATCH"
  | delete => "DELETE"

/-- The description of a single request. -/
structure Request where
  /-- The method. -/
  method : Method
  /-- The query parameters. -/
  query : KeyMap Json
  /-- The headers. -/
  headers : KeyMap String
  /-- The body. -/
  body : Option Json

namespace Request

/-- A plain reading request. -/
def plain : Request := ⟨.get, .empty, .empty, none⟩

instance : Inhabited Request := ⟨plain⟩

/-- A request that posts a body. -/
def post (body : Json) : Request := { plain with method := .post, body := some body }

/-- With a header; an earlier one of the same name is replaced. -/
def withHeader (r : Request) (name value : String) : Request :=
  { r with headers := r.headers.insert name value }

/-- With a query parameter; an earlier one of the same key is replaced. -/
def withQuery (r : Request) (key : String) (value : Json) : Request :=
  { r with query := r.query.insert key value }

end Request

end TopicStream.Http
