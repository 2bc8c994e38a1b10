import TopicStream.Engine.Task
import TopicStream.Session

/-!
# The state of the engine

What the tasks share: the registry, the session and the flag that announces its readiness, the
state of the connection, the slot of the current worker, and the observers. The *epoch* is raised
whenever a worker is started or given up; what a worker of an earlier epoch says about session and
connection is ignored.

Every effect that can be seen from outside is noted in a trace, together with the time and the task
that caused it, and so is every answer and every item of a body that comes in from outside.
-/

namespace TopicStream

open Subscription

namespace Engine

/-- What the engine is told once. -/
structure Settings where
  /-- The address of the event stream and of the announcements. -/
  url : String
  /-- The language asked for. -/
  lang : String
  /-- The name under which the client introduces itself. -/
  userAgent : String
  /-- How long a subscription waits for the greeting, in milliseconds. -/
  connectTimeout : Nat
  /-- The pause asked for between the end of an attempt and the next, in milliseconds. -/
  reconnectDelay : Nat

/-- The longest pause: thirty years of 365 days, in milliseconds. It records how the sleep on which
workers pause has been observed to behave under a virtual clock: asked for `2 ^ 64 - 1`
milliseconds, it still sleeps after 946079999999 and has ended one later, and `2 ^ 40` milliseconds,
which are 1099511627776, are over by 960000000000. -/
def longestPause : Nat := 30 * 365 * 24 * 60 * 60 * 1000

/-- The pause that a worker makes between the end of an attempt and the next, in milliseconds: the
one asked for, cut to the longest. The wait of a call is not cut: a call does not sleep but sets a
deadline for the greeting, and deadlines have been observed to hold beyond thirty years, that of
946080000001 milliseconds to the millisecond. -/
def Settings.pause (s : Settings) : Nat := min s.reconnectDelay longestPause

/-- Something that has happened: an effect, or something from outside that has been taken in. -/
inductive Event where
  /-- A call has registered a listener. -/
  | registered (call : Nat) (key : String) (id : ListenerId)
  /-- A worker has been started. -/
  | started (worker : Nat)
  /-- A worker has been given up, by a call or because the client has gone. -/
  | retired (worker : Nat) (call : Option Nat)
  /-- A worker asks for a stream. -/
  | requested (worker : Nat) (headers : List (String × String))
  /-- A task announces the topics for a client id. -/
  | announced (task : Task) (clientId : String) (topics : List String)
  /-- The transport has answered the request that a task waits for. -/
  | answered (task : Task) (answer : Answer)
  /-- A worker begins to read a stream. -/
  | opened (worker serial : Nat)
  /-- An item of a stream's body has arrived. -/
  | arrived (serial : Nat) (item : Except ClientError Bytes)
  /-- A stream's body has ended. -/
  | ended (serial : Nat)
  /-- A worker has read a record from a stream. -/
  | read (worker serial : Nat) (record : TopicStream.Event.Record)
  /-- A worker calls a listener. -/
  | delivered (worker : Nat) (id : ListenerId) (listener : Listener) (payload : Json)
  /-- A worker tells an observer of a greeting. -/
  | connected (worker : Nat) (observer : Observer) (clientId : String)
  /-- A worker tells an observer of the loss of its stream. -/
  | lost (worker : Nat) (observer : Observer) (topics : List String)
  /-- A call has ended. -/
  | returned (call : Nat) (outcome : Outcome)

/-- An effect and its time. -/
structure Entry where
  /-- When it happened, in milliseconds since the start. -/
  time : Nat
  /-- What happened. -/
  event : Event

end Engine

open Engine in
/-- The engine and all its tasks. -/
structure Engine where
  /-- What the engine was told. -/
  settings : Settings
  /-- The credential that the transport exposes at present. -/
  credential : Option String
  /-- The listeners. -/
  registry : Registry Listener
  /-- The session. -/
  session : Session
  /-- The flag that waiting calls look at. -/
  ready : Bool
  /-- The state of the connection. -/
  connection : Connection
  /-- How often a worker has been started or given up. -/
  epoch : Nat
  /-- The current worker. -/
  slot : Option Nat
  /-- All workers ever started. -/
  workers : List Worker
  /-- All calls ever started. -/
  calls : List Call
  /-- Who is told of greetings. -/
  onConnect : List Observer
  /-- Who is told of lost streams. -/
  onDisconnect : List Observer
  /-- Whether there is still a client. -/
  clientAlive : Bool
  /-- How many streams have been opened. -/
  streams : Nat
  /-- The time, in milliseconds since the start. -/
  now : Nat
  /-- The effects so far, in order. -/
  trace : List Entry

namespace Engine

/-- The engine before the first call. -/
def initial (settings : Settings) (credential : Option String) : Engine where
  settings
  credential
  registry := .empty
  session := .none
  ready := false
  connection := .idle
  epoch := 0
  slot := none
  workers := []
  calls := []
  onConnect := []
  onDisconnect := []
  clientAlive := true
  streams := 0
  now := 0
  trace := []

/-- Notes an effect. -/
def note (e : Engine) (event : Event) : Engine :=
  { e with trace := e.trace ++ [⟨e.now, event⟩] }

/-- Notes effects in order. -/
def noteAll (e : Engine) (events : List Event) : Engine :=
  { e with trace := e.trace ++ events.map (⟨e.now, ·⟩) }

/-- Calls a listener or an observer. The call is noted as it begins, and fails if the callee
crashes. -/
def callOut (e : Engine) (event : Event) (crashes : Bool) : Except Engine Engine :=
  if crashes then .error (e.note event) else .ok (e.note event)

/-- Goes on after a call, in the state that it leaves. If it has failed, the failure is caught. -/
def catchCrash : Except Engine Engine → Engine
  | .ok e => e
  | .error e => e

/-- Calls listeners or observers one after the other, each as if none before had crashed. -/
def callEach {α : Type} (e : Engine) (event : α → Event) (crashes : α → Bool) : List α → Engine
  | [] => e
  | callee :: others =>
    (catchCrash (e.callOut (event callee) (crashes callee))).callEach event crashes others

/-- A crash ends its own call only: all callees are called, in order. -/
theorem callEach_eq_noteAll {α : Type} (e : Engine) (event : α → Event) (crashes : α → Bool)
    (callees : List α) : e.callEach event crashes callees = e.noteAll (callees.map event) := by
  induction callees generalizing e with
  | nil => simp [callEach, noteAll]
  | cons callee others ih =>
    -- whether the callee crashes or not, its call leaves the same state
    have hcaught : catchCrash (e.callOut (event callee) (crashes callee)) =
        e.note (event callee) := by
      unfold callOut
      split <;> rfl
    rw [callEach, hcaught, ih]
    simp [note, noteAll]

/-- Puts a worker into a phase. -/
def setWorker (e : Engine) (w : Nat) (phase : Worker.Phase) : Engine :=
  { e with workers := e.workers.modify w fun k => { k with phase } }

/-- Puts a call into a phase. -/
def setCall (e : Engine) (c : Nat) (phase : Call.Phase) : Engine :=
  { e with calls := e.calls.modify c fun k => { k with phase } }

/-- Ends a call. -/
def endCall (e : Engine) (c : Nat) (outcome : Outcome) : Engine :=
  (e.setCall c (.ended outcome)).note (.returned c outcome)

/-! ### Session and connection -/

/-- Begins an epoch without a session. -/
def retireSession (e : Engine) : Engine :=
  { e with epoch := e.epoch + 1, session := e.session.reset, ready := false }

/-- Takes a greeting read by a worker of an epoch; nothing if the epoch is over. -/
def establish? (e : Engine) (clientId : String) (epoch : Nat) : Option Engine :=
  if e.epoch = epoch then some { e with session := e.session.establish clientId, ready := true }
  else none

/-- Drops the session, unless the epoch is over. -/
def resetSession (e : Engine) (epoch : Nat) : Engine :=
  if e.epoch = epoch then { e with session := e.session.reset, ready := false } else e

/-- Sets the state of the connection, unless the epoch is over. -/
def setConnection (e : Engine) (connection : Connection) (epoch : Nat) : Engine :=
  if e.epoch = epoch then { e with connection } else e

/-! ### Workers -/

/-- Whether a worker has ended. -/
def isOver (e : Engine) (w : Nat) : Bool :=
  match e.workers[w]? with
  | some k => k.phase.isOver
  | none => true

/-- Whether the slot holds a worker that has not ended. -/
def hasWorker (e : Engine) : Bool :=
  match e.slot with
  | some w => !e.isOver w
  | none => false

/-- Starts a worker in a new epoch and puts it into the slot. -/
def startWorker (e : Engine) : Engine :=
  -- The worker works in the epoch that has just begun.
  let e := e.retireSession
  let w := e.workers.length
  let worker : Worker := ⟨e.epoch, false, .starting⟩
  note { e with workers := e.workers ++ [worker], slot := some w } (.started w)

/-- Sees to it that a worker is running. -/
def ensureWorker (e : Engine) : Engine :=
  if e.hasWorker then e else e.startWorker

/-- Gives up the current worker, on behalf of a call or not: its session is void at once, and it
is told to end. -/
def takeWorker (e : Engine) (call : Option Nat) : Option (Nat × Engine) :=
  match e.slot with
  | none => none
  | some w =>
    let e := e.retireSession
    let workers := e.workers.modify w fun k => { k with cancelled := true }
    some (w, note { e with slot := none, workers } (.retired w call))

/-- Whether the worker that a task watches has been given up or replaced. -/
def isGone (e : Engine) (watched : Option Nat) : Bool :=
  match watched with
  | none => false
  | some w =>
    e.slot != some w ||
      match e.workers[w]? with
      | some k => k.cancelled
      | none => true

/-! ### Announcements -/

/-- What there is to announce: the client id of the session and the active topics, if there is such
a session and there are such topics. -/
def announcement? (e : Engine) : Option (String × List String) :=
  let topics := e.registry.activeTopics
  if e.session.canRegister && !topics.isEmpty then some (e.session.clientId, topics) else none

/-- The body of an announcement. -/
def announcementBody (clientId : String) (topics : List String) : Json :=
  .object [("clientId", .string clientId), ("subscriptions", .array (topics.map .string))]

/-- The request of an announcement. -/
def announcementRequest (clientId : String) (topics : List String) : Http.Request :=
  .post (announcementBody clientId topics)

/-- Announces the active topics, if there is anything to announce. -/
def announce? (e : Engine) (task : Task) : Option Engine :=
  e.announcement?.map fun (clientId, topics) => e.note (.announced task clientId topics)

end Engine

end TopicStream
