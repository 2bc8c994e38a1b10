import TopicStream.Duration
import TopicStream.Error
import TopicStream.Event.Stream
import TopicStream.Http.Request
import TopicStream.Subscription.Change
import TopicStream.Subscription.Options
import TopicStream.Subscription.Registry

/-!
# Tasks of the engine

The engine runs *workers*, of which each keeps one background connection alive, and the *calls* of
its users. A task is described by the place where it waits: between two waits it runs without
interruption. This file holds the tasks with their waits, the listeners and observers that they
call, and the answers of the transport that they wait for.
-/

namespace TopicStream.Engine

open Subscription

/-! ### Listeners and observers -/

/-- What a listener wants to be given. -/
inductive Form where
  /-- The payload as it is. -/
  | payload
  /-- The change that the payload describes; other payloads are passed over. -/
  | change
  deriving DecidableEq, Repr

/-- A listener of a topic. -/
structure Listener where
  /-- The name by which its calls are told apart. -/
  name : String
  /-- What it wants to be given. -/
  form : Form
  /-- Whether it crashes when called. -/
  crashes : Bool
  deriving DecidableEq, Repr

/-- The text of what a listener is given for a payload, if it is given anything. -/
def Listener.given? (l : Listener) (payload : Json) : Option String :=
  match l.form with
  | .payload => some payload.render
  | .change => ((Change.ofJson payload).toOption).map (·.render)

/-- An observer of greetings or of lost connections. -/
structure Observer where
  /-- The name by which its calls are told apart. -/
  name : String
  /-- Whether it crashes when called. -/
  crashes : Bool
  deriving DecidableEq, Repr

/-- What the transport makes of a request. -/
inductive Answer where
  /-- It succeeds. -/
  | success
  /-- It fails. -/
  | failure (error : ClientError)
  /-- The transport itself crashes, and with it the task that waits. -/
  | crash

/-! ### Workers -/

/-- The body of an open stream. -/
structure Body where
  /-- Which stream it is, counted over all streams that were ever opened. -/
  serial : Nat
  /-- The records of what has arrived. -/
  records : Event.RecordStream ClientError
  /-- Whether the body has ended. -/
  ended : Bool

namespace Body

/-- The body of a stream that has just been opened. -/
def fresh (serial : Nat) : Body := ⟨serial, .ofInput [], false⟩

/-- The body after one more item has arrived. -/
def arrive (b : Body) (item : Except ClientError Bytes) : Body :=
  { b with records := b.records.arrive item }

/-- The body after its end. -/
def finish (b : Body) : Body := { b with ended := true }

end Body

/-- Where a worker stands. -/
inductive Worker.Phase where
  /-- It is about to make its first attempt. -/
  | starting
  /-- It waits for the answer to its request to open a stream. -/
  | opening (answer : Option Answer)
  /-- It reads a stream. -/
  | reading (body : Body)
  /-- It has read a greeting with this client id and waits for the answer to its announcement. -/
  | greeting (clientId : String) (body : Body) (answer : Option Answer)
  /-- It waits for the time of its next attempt. -/
  | pausing (resumes : Nat)
  /-- It has ended in good order. -/
  | finished
  /-- It has been ended by a crash. -/
  | crashed

/-- Whether a worker has ended. -/
def Worker.Phase.isOver : Worker.Phase → Bool
  | .finished | .crashed => true
  | _ => false

/-- The stream that a worker reads. -/
def Worker.Phase.body? : Worker.Phase → Option Body
  | .reading body | .greeting _ body _ => some body
  | _ => none

/-- The phase with a changed stream. -/
def Worker.Phase.mapBody (f : Body → Body) : Worker.Phase → Worker.Phase
  | .reading body => .reading (f body)
  | .greeting clientId body answer => .greeting clientId (f body) answer
  | phase => phase

/-- A task that keeps one background connection alive. -/
structure Worker where
  /-- The epoch in which it was started. What it says about the session counts in that epoch. -/
  epoch : Nat
  /-- Whether it has been told to end. -/
  cancelled : Bool
  /-- Where it stands. -/
  phase : Worker.Phase

/-! ### Calls -/

/-- What a caller wants removed. -/
inductive Removal where
  /-- All listeners of a topic. -/
  | topic (topic : String)
  /-- All listeners. -/
  | all
  /-- All listeners of topics that begin with a text. -/
  | starting (start : String)
  /-- One registration. -/
  | listener (topic : String) (id : ListenerId)
  deriving DecidableEq, Repr

/-- The registry after a removal. -/
def Removal.apply (r : Registry Listener) : Removal → Registry Listener
  | .topic key => (r.removeTopic key).2
  | .all => r.clear
  | .starting start => (r.removeStarting start).2
  | .listener key id => (r.removeListener key id).2

/-- What a caller asks of the engine. -/
inductive Request where
  /-- Register a listener and announce its topic. -/
  | subscribe (topic : String) (options : Options) (listener : Listener)
  /-- Wait for the greeting, at most for this long. -/
  | ensureConnected (patience : Duration)
  /-- End the background connection. -/
  | disconnect
  /-- Remove listeners and announce what is left. -/
  | remove (what : Removal)

/-- How a call ends. -/
inductive Outcome where
  /-- A listener is registered under a topic key. -/
  | subscribed (key : String) (id : ListenerId)
  /-- The call has done what it was asked. -/
  | done
  /-- The call has failed. -/
  | failed (error : ClientError)
  /-- The transport crashed under the call. -/
  | crashed

/-- Where a call stands. -/
inductive Call.Phase where
  /-- It waits for the greeting until a deadline. -/
  | awaiting (deadline : Nat)
  /-- It waits for the answer to its announcement, or for the end of the worker it watches. -/
  | announcing (watched : Option Nat) (answer : Option Answer)
  /-- It has undone its registration because of an error, and waits in the same way for the answer
  to the announcement of what is left. -/
  | restoring (error : ClientError) (watched : Option Nat) (answer : Option Answer)
  /-- It waits for a worker to end, and then ends with an outcome. -/
  | joining (worker : Nat) (outcome : Outcome)
  /-- It has ended. -/
  | ended (outcome : Outcome)

/-- Whether a call has ended. -/
def Call.Phase.isOver : Call.Phase → Bool
  | .ended _ => true
  | _ => false

/-- A call in progress or ended. -/
structure Call where
  /-- What it was asked. -/
  request : Request
  /-- Whether it was started through the client, which then outlives it. -/
  borrows : Bool
  /-- What it has registered: topic key and id. -/
  registered : Option (String × ListenerId)
  /-- Whether the handle that it returned has been used. -/
  handleUsed : Bool
  /-- Where it stands. -/
  phase : Call.Phase

/-- The handle that a call has returned and that has not been used. -/
def Call.handle? (c : Call) : Option (String × ListenerId) :=
  match c.handleUsed, c.phase with
  | false, .ended (.subscribed key id) => some (key, id)
  | _, _ => none

/-- A handle for people. -/
def describeHandle (key : String) (id : ListenerId) : String :=
  "Subscription \x7b topic: " ++ Text.Quoted.encode key ++ ", id: " ++ id.describe ++ " \x7d"

/-- A task. -/
inductive Task where
  /-- The worker with this index. -/
  | worker (index : Nat)
  /-- The call with this index. -/
  | call (index : Nat)
  deriving DecidableEq, Repr

end TopicStream.Engine
