import TopicStream.Duration
import TopicStream.Json.Shape

/-!
# Configuration

What a client needs to know: where the server is, how to introduce itself, and how long to wait.
Durations are held in whole milliseconds of 64 bits; longer ones are cut to the longest.
-/

namespace TopicStream

/-- The configuration of a client. -/
structure Config where
  /-- The address of the server. -/
  baseUrl : String
  /-- The language asked for in every request. -/
  lang : String
  /-- The name under which the client introduces itself. -/
  userAgent : String
  /-- How long a single request may take, in milliseconds. -/
  requestTimeoutMs : Nat
  /-- How long a subscription waits for the greeting, in milliseconds. -/
  connectTimeoutMs : Nat
  /-- The pause between the loss of a stream and the next attempt, in milliseconds. -/
  reconnectDelayMs : Nat
  deriving DecidableEq, Repr

namespace Config

/-- The language where none is given. -/
def defaultLang : String := "en-US"

/-- The name where none is given. -/
def defaultUserAgent : String := "realtide-rust-sdk/0.1.0"

/-- The configuration for a server, all else at its default. -/
def forServer (baseUrl : String) : Config where
  baseUrl
  lang := defaultLang
  userAgent := defaultUserAgent
  requestTimeoutMs := 30000
  connectTimeoutMs := 10000
  reconnectDelayMs := 500

/-- With another language. -/
def withLang (c : Config) (lang : String) : Config := { c with lang }

/-- With another time to wait for the greeting. -/
def withConnectTimeout (c : Config) (d : Duration) : Config :=
  { c with connectTimeoutMs := d.toMillis }

/-- With another pause between attempts. -/
def withReconnectDelay (c : Config) (d : Duration) : Config :=
  { c with reconnectDelayMs := d.toMillis }

/-- How long a single request may take. -/
def requestTimeout (c : Config) : Duration := c.requestTimeoutMs

/-- How long a subscription waits for the greeting. -/
def connectTimeout (c : Config) : Duration := c.connectTimeoutMs

/-- The pause between the loss of a stream and the next attempt. -/
def reconnectDelay (c : Config) : Duration := c.reconnectDelayMs

/-- The configuration as an object, its fields in declared order. -/
def toJson (c : Config) : Json :=
  .object
    [ ("base_url", .string c.baseUrl),
      ("lang", .string c.lang),
      ("user_agent", .string c.userAgent),
      ("request_timeout_ms", .number (.integer c.requestTimeoutMs)),
      ("connect_timeout_ms", .number (.integer c.connectTimeoutMs)),
      ("reconnect_delay_ms", .number (.integer c.reconnectDelayMs)) ]

/-- The text of a configuration. -/
def render (c : Config) : String := c.toJson.render

/-- A configuration of which some fields have been read. -/
structure Draft where
  /-- The address, if read. -/
  baseUrl : Option String
  /-- The language, if read. -/
  lang : Option String
  /-- The name, if read. -/
  userAgent : Option String
  /-- The time of a request, if read. -/
  requestTimeoutMs : Option Nat
  /-- The time to wait for the greeting, if read. -/
  connectTimeoutMs : Option Nat
  /-- The pause, if read. -/
  reconnectDelayMs : Option Nat

/-- A field that holds a string. -/
def textOf (name : String) (optional : Bool) (get : Draft → Option String)
    (set : Draft → String → Draft) : Json.Field Draft where
  name
  isSet := fun d => (get d).isSome
  read := fun fuel d text => do
    let (v, rest) ← Json.textField fuel text
    .ok (set d v, rest)
  optional

/-- An optional field that holds a natural number. -/
def naturalOf (name : String) (get : Draft → Option Nat) (set : Draft → Nat → Draft) :
    Json.Field Draft where
  name
  isSet := fun d => (get d).isSome
  read := fun fuel d text => do
    let (v, rest) ← Json.naturalField fuel text
    .ok (set d v, rest)
  optional := true

/-- How a configuration is read from a text. Only the address is required. -/
def shape : Json.Shape Draft Config where
  name := "RealtimeConfig"
  fields :=
    [ textOf "base_url" false (·.baseUrl) fun d v => { d with baseUrl := some v },
      textOf "lang" true (·.lang) fun d v => { d with lang := some v },
      textOf "user_agent" true (·.userAgent) fun d v => { d with userAgent := some v },
      naturalOf "request_timeout_ms" (·.requestTimeoutMs)
        fun d v => { d with requestTimeoutMs := some v },
      naturalOf "connect_timeout_ms" (·.connectTimeoutMs)
        fun d v => { d with connectTimeoutMs := some v },
      naturalOf "reconnect_delay_ms" (·.reconnectDelayMs)
        fun d v => { d with reconnectDelayMs := some v } ]
  start := ⟨none, none, none, none, none, none⟩
  finish := fun d =>
    match d.baseUrl with
    | some baseUrl =>
      let base := forServer baseUrl
      .ok
        { baseUrl
          lang := d.lang.getD base.lang
          userAgent := d.userAgent.getD base.userAgent
          requestTimeoutMs := d.requestTimeoutMs.getD base.requestTimeoutMs
          connectTimeoutMs := d.connectTimeoutMs.getD base.connectTimeoutMs
          reconnectDelayMs := d.reconnectDelayMs.getD base.reconnectDelayMs }
    | none => .error (.missingField "base_url")

/-- The configuration of a text. -/
def parse (text : String) : Except Json.ReadError Config := shape.parse text

end Config

end TopicStream
