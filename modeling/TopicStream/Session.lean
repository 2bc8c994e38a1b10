/-!
# Sessions and connections

A session is the identity that the server gives to one connection in its greeting. Before the
greeting there is none, and the session is reset when the connection is lost or given up.
-/

namespace TopicStream

/-- The session of the current connection. -/
structure Session where
  /-- The id given by the server, empty before the greeting. -/
  clientId : String
  /-- Whether the greeting has arrived. -/
  ready : Bool
  deriving DecidableEq, Repr

namespace Session

/-- No session. -/
def none : Session := ⟨"", false⟩

instance : Inhabited Session := ⟨none⟩

/-- The session after a greeting, whatever it was before. -/
def establish (_ : Session) (clientId : String) : Session := ⟨clientId, true⟩

/-- The session after the loss of its connection. -/
def reset (_ : Session) : Session := none

/-- Whether topics can be announced for the session. -/
def canRegister (s : Session) : Bool := s.ready && s.clientId != ""

end Session

/-- The life of the background connection. -/
inductive Connection where
  /-- There is none. -/
  | idle
  /-- The stream is being opened. -/
  | connecting
  /-- The stream is open. -/
  | streaming
  /-- The stream was lost; the pause before the next attempt runs. -/
  | reconnecting
  deriving DecidableEq, Repr, Inhabited

/-- The name of a state. -/
def Connection.name : Connection → String
  | idle => "idle"
  | connecting => "connecting"
  | streaming => "streaming"
  | reconnecting => "reconnecting"

end TopicStream
