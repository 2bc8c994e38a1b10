import TopicStream.Json.Fault
import TopicStream.Json.Printer

/-!
# Errors of a client

What can go wrong in an operation that a caller started.
-/

namespace TopicStream

/-- Why an operation failed. -/
inductive ClientError where
  /-- The server answered with a status that means failure. -/
  | http (url : String) (status : Nat) (response : Json)
  /-- The request got no answer. -/
  | network (url reason : String)
  /-- The request was given up by a teardown. -/
  | aborted (url : String)
  /-- The greeting did not arrive in time. -/
  | connectTimeout (url : String) (ms : Nat)
  /-- The caller passed something unusable. -/
  | invalidArgument (what : String)
  /-- A payload could not be read. -/
  | deserialization (fault : Json.Fault)
  /-- Anything else. -/
  | other (what : String)

namespace ClientError

/-- The wording of an error. -/
def message : ClientError → String
  | http url status response =>
    "HTTP " ++ Nat.repr status ++ " from " ++ url ++ ": " ++ response.render
  | network url reason => "request to " ++ url ++ " failed: " ++ reason
  | aborted url => "request to " ++ url ++ " aborted"
  | connectTimeout url ms =>
    "realtime connection not established within " ++ Nat.repr ms ++ "ms (" ++ url ++ ")"
  | invalidArgument what => "invalid argument: " ++ what
  | deserialization fault => "Deserialization error: " ++ fault.message
  | other what => what

/-- The status that the server answered with; zero if it did not answer. -/
def status : ClientError → Nat
  | http _ status _ => status
  | _ => 0

/-- The address that the failure is about. -/
def url? : ClientError → Option String
  | http url _ _ | network url _ | aborted url | connectTimeout url _ => some url
  | _ => none

/-- Whether a teardown caused the failure. -/
def isAbort : ClientError → Bool
  | aborted _ => true
  | _ => false

/-- Whether the failure is a greeting that did not arrive in time. -/
def isTimeout : ClientError → Bool
  | connectTimeout _ _ => true
  | _ => false

/-- Whether the same operation may succeed when tried again. -/
def isRetryable : ClientError → Bool
  | network _ _ => true
  | http _ status _ => status == 429 || 500 ≤ status
  | _ => false

end ClientError

end TopicStream
