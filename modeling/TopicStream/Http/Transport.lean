import TopicStream.Config
import TopicStream.Credential.Store
import TopicStream.Error
import TopicStream.Event.Stream
import TopicStream.Http.Request

/-!
# Requests over HTTP

What is sent to a server for a request or a stream, and what the server's reply means. The network
itself is a parameter: an exchange is given what the peer does.
-/

namespace TopicStream.Http

/-- A request as it is handed to the network. -/
structure Message where
  /-- The method. -/
  method : Method
  /-- The address. -/
  url : String
  /-- The headers in order; a name may occur more than once. -/
  headers : List (String × String)
  /-- The body. -/
  body : Option Json

/-- What a server answers. -/
structure Reply where
  /-- The status. -/
  status : Nat
  /-- The content type, if given. -/
  contentType : Option String
  /-- The bytes of the body that arrive. -/
  body : Bytes
  /-- Whether the connection ends before the announced end of the body. -/
  cut : Bool

/-- Whether a status means that a stream follows. -/
def isSuccess (status : Nat) : Bool := 200 ≤ status && status < 300

/-- What happens at the other end of a connection. -/
inductive Peer where
  /-- There is no answer. -/
  | silent
  /-- There is an answer. -/
  | answers (reply : Reply)
  deriving Inhabited

/-- How a client reaches its server. -/
structure Transport where
  /-- The address of the server. -/
  baseUrl : String
  /-- The language asked for. -/
  lang : String
  /-- The name under which the client introduces itself. -/
  userAgent : String
  deriving DecidableEq, Repr

/-- Two names that differ at most in the case of ASCII letters. -/
def sameName (a b : String) : Bool :=
  a.toList.map Char.toLower == b.toList.map Char.toLower

/-- Whether a text can be the name of a header. -/
def isHeaderName (name : String) : Bool :=
  !name.toList.isEmpty &&
    name.toList.all fun c => c.isAlphanum || "!#$%&'*+-.^_`|~".toList.contains c

/-- Whether a text can be the value of a header. -/
def isHeaderValue (value : String) : Bool :=
  value.toList.all fun c => (0x20 ≤ c.toNat && c.toNat != 0x7F) || c == '\t'

/-- Whether the network takes a message. -/
def Message.isSendable (m : Message) : Bool :=
  m.headers.all fun h => isHeaderName h.1 && isHeaderValue h.2

/-- What a body means: nothing if empty; if it is said to be JSON its value, or an empty object if
it has none; else its text. -/
def bodyValue (text : List Char) (isJson : Bool) : Json :=
  if text.isEmpty then .null
  else if isJson then
    match Json.parseChars text with
    | .ok v => v
    | .error _ => .emptyObject
  else .string (String.ofList text)

/-- Whether a list of characters has another as a consecutive part. -/
def hasPart (part : List Char) : List Char → Bool
  | [] => part.isEmpty
  | c :: text => part.isPrefixOf (c :: text) || hasPart part text

/-- The content type of JSON. -/
def jsonType : String := "application/json"

/-- Whether a reply says that its body is JSON. -/
def Reply.isJson (r : Reply) : Bool :=
  match r.contentType with
  | some type => type.toList.all (fun c => isHeaderValue (.singleton c) && c.toNat < 0x7F) &&
      hasPart jsonType.toList type.toList
  | none => false

/-- The text of the body of a reply. -/
def Reply.text (r : Reply) : List Char := Text.Utf8.decodeLossy r.body

namespace Transport

/-- The transport of a configuration. -/
def ofConfig (c : Config) : Transport := ⟨c.baseUrl, c.lang, c.userAgent⟩

/-- The address of a path. -/
def url (t : Transport) (path : String) : String := joinUrl t.baseUrl path .empty

/-- The name of the header that carries a credential. -/
def authorization : String := "authorization"

/-- The message of a single request. The credential is added while it is valid, unless the request
brings a header for it. -/
def requestMessage (t : Transport) (store : Credential.Store) (now : Int) (path : String)
    (r : Request) : Message where
  method := r.method
  url := joinUrl t.baseUrl path r.query
  headers :=
    [("accept-language", t.lang), ("user-agent", t.userAgent)] ++
      (if r.headers.keys.any (sameName authorization) then []
        else (store.validToken? now).toList.map (authorization, ·)) ++
      r.headers.members
  body := r.body

/-- The message that opens a stream. -/
def streamMessage (t : Transport) (path : String) (headers : List (String × String)) : Message where
  method := .get
  url := t.url path
  headers
  body := none

/-- The failure of a request without an answer. -/
def noAnswer (url : String) : ClientError := .network url "no answer"

/-- The outcome of a single request. -/
def send (t : Transport) (store : Credential.Store) (now : Int) (path : String) (r : Request)
    (peer : Peer) : Except ClientError Json :=
  let m := t.requestMessage store now path r
  match m.isSendable, peer with
  | true, .answers reply =>
    if reply.cut then .error (noAnswer m.url)
    else
      let data := bodyValue reply.text reply.isJson
      if 400 ≤ reply.status then
        .error (.http m.url reply.status (if data.isObject then data else .emptyObject))
      else .ok data
  | _, _ => .error (noAnswer m.url)

/-- The body of a stream, or why there is none. -/
def openStream (t : Transport) (path : String) (headers : List (String × String)) (peer : Peer) :
    Except ClientError (List (Except ClientError Bytes)) :=
  let m := t.streamMessage path headers
  match m.isSendable, peer with
  | true, .answers reply =>
    if isSuccess reply.status then
      .ok (.ok reply.body :: if reply.cut then [.error (noAnswer m.url)] else [])
    else
      -- A body that cannot be read counts as empty.
      let text := if reply.cut then [] else reply.text
      let response := match Json.parseChars text with
        | .ok v => v
        | .error _ => .emptyObject
      .error (.http m.url reply.status response)
  | _, _ => .error (noAnswer m.url)

end Transport

end TopicStream.Http
