import TopicStream.Engine.Call
import TopicStream.Engine.Worker

/-!
# The engine as a transition system

An action is one thing that can happen next: a caller starts a call, a task goes on to its next
wait, the transport answers, a stream delivers, time passes, the client goes. Tasks interleave in
any order. Time passes only when no task can go on, and never beyond the next deadline.
-/

namespace TopicStream.Engine

/-- Something that can happen next. -/
inductive Action where
  /-- A caller starts a call through the client. -/
  | start (request : Request)
  /-- The holder of the handle that a call has returned closes it. -/
  | closeHandle (call : Nat)
  /-- A task goes on. If the answer it waits for and the end of the worker it watches are both
  there, `preferAnswer` says which it sees. -/
  | resume (task : Task) (preferAnswer : Bool)
  /-- The transport answers the request that a task waits for. -/
  | answer (task : Task) (answer : Answer)
  /-- An item of a stream's body arrives. -/
  | arrive (serial : Nat) (item : Except ClientError Bytes)
  /-- A stream's body ends. -/
  | finish (serial : Nat)
  /-- Time passes. -/
  | tick (time : Nat)
  /-- The client is given up. A call through the client keeps it until the call has ended. -/
  | dropClient
  /-- The credential changes. -/
  | setCredential (token : Option String)
  /-- An observer of greetings is added. -/
  | observeConnect (observer : Observer)
  /-- An observer of lost streams is added. -/
  | observeDisconnect (observer : Observer)

/-- Lets a task go on to its next wait; nothing if it has ended or still has to wait. -/
def resume (e : Engine) (task : Task) (preferAnswer : Bool) : Option Engine :=
  match task with
  | .worker w => e.resumeWorker w
  | .call c => e.resumeCall c preferAnswer

/-- All tasks. -/
def tasks (e : Engine) : List Task :=
  (List.range e.workers.length).map .worker ++ (List.range e.calls.length).map .call

/-- Whether a task can go on. -/
def canResume (e : Engine) (task : Task) : Bool :=
  (e.resume task true).isSome

/-- Whether no task can go on. -/
def isQuiescent (e : Engine) : Bool :=
  e.tasks.all fun task => !e.canResume task

/-- The times that tasks wait for. -/
def deadlines (e : Engine) : List Nat :=
  (e.workers.filterMap fun k =>
    match k.phase with
    | .pausing resumes => some resumes
    | _ => none) ++
  (e.calls.filterMap fun c =>
    match c.phase with
    | .awaiting deadline => some deadline
    | _ => none)

/-- Whether a task waits for an answer of the transport. -/
def awaitsAnswer (e : Engine) : Task → Bool
  | .worker w =>
    match e.workers[w]? with
    | some k =>
      match k.phase with
      | .opening none | .greeting _ _ none => true
      | _ => false
    | none => false
  | .call c =>
    match e.calls[c]? with
    | some call =>
      match call.phase with
      | .announcing _ none | .restoring _ _ none => true
      | _ => false
    | none => false

/-- A worker with an answer to what it waits for. -/
def Worker.Phase.withAnswer (answer : Answer) : Worker.Phase → Worker.Phase
  | .opening _ => .opening (some answer)
  | .greeting clientId body _ => .greeting clientId body (some answer)
  | phase => phase

/-- A call with an answer to what it waits for. -/
def Call.Phase.withAnswer (answer : Answer) : Call.Phase → Call.Phase
  | .announcing watched _ => .announcing watched (some answer)
  | .restoring error watched _ => .restoring error watched (some answer)
  | phase => phase

/-- Hands an answer to the task that waits for it. -/
def giveAnswer (e : Engine) (task : Task) (answer : Answer) : Engine :=
  let e := e.note (.answered task answer)
  match task with
  | .worker w =>
    { e with workers := e.workers.modify w fun k => { k with phase := k.phase.withAnswer answer } }
  | .call c =>
    { e with calls := e.calls.modify c fun k => { k with phase := k.phase.withAnswer answer } }

/-- Whether a worker reads a stream whose body has not ended. -/
def Worker.reads (k : Worker) (serial : Nat) : Bool :=
  match k.phase.body? with
  | some body => body.serial == serial && !body.ended
  | none => false

/-- Whether a stream is read by a worker and its body has not ended. -/
def isOpen (e : Engine) (serial : Nat) : Bool :=
  e.workers.any (·.reads serial)

/-- Changes the body of a stream. -/
def mapStream (e : Engine) (serial : Nat) (f : Body → Body) : Engine :=
  { e with workers := e.workers.map fun k =>
      if k.reads serial then { k with phase := k.phase.mapBody f } else k }

/-- Whether a call in progress was started through the client. -/
def isBorrowed (e : Engine) : Bool :=
  e.calls.any fun c => c.borrows && !c.phase.isOver

/-- Marks a handle as used. -/
def useHandle (e : Engine) (c : Nat) : Engine :=
  { e with calls := e.calls.modify c fun k => { k with handleUsed := true } }

/-- What an action leads to; nothing if it cannot happen. -/
def step (e : Engine) : Action → Option Engine
  | .start request => if e.clientAlive then some (e.beginCall request true) else none
  | .closeHandle c =>
    match e.calls[c]?.bind Call.handle? with
    | some (key, id) => some ((e.useHandle c).beginCall (.remove (.listener key id)) false)
    | none => none
  | .resume task preferAnswer => e.resume task preferAnswer
  | .answer task answer => if e.awaitsAnswer task then some (e.giveAnswer task answer) else none
  | .arrive serial item =>
    if e.isOpen serial then some ((e.mapStream serial (·.arrive item)).note (.arrived serial item))
    else none
  | .finish serial =>
    if e.isOpen serial then some ((e.mapStream serial Body.finish).note (.ended serial)) else none
  | .tick time =>
    if e.isQuiescent && e.now < time && e.deadlines.all (time ≤ ·) then some { e with now := time }
    else none
  | .dropClient =>
    if e.clientAlive && !e.isBorrowed then
      let e := { e with clientAlive := false }
      some (((e.takeWorker none).map (·.2)).getD e)
    else none
  | .setCredential token => some { e with credential := token }
  | .observeConnect o =>
    if e.clientAlive then some { e with onConnect := e.onConnect ++ [o] } else none
  | .observeDisconnect o =>
    if e.clientAlive then some { e with onDisconnect := e.onDisconnect ++ [o] } else none

/-- The states that some order of events leads to. -/
inductive Reachable (settings : Settings) (credential : Option String) : Engine → Prop where
  /-- The state before the first call. -/
  | initial : Reachable settings credential (Engine.initial settings credential)
  /-- A state that an action leads to from a reachable one. -/
  | step {e e' : Engine} (action : Action) (before : Reachable settings credential e)
      (happens : e.step action = some e') : Reachable settings credential e'

/-- No task can go on before time passes, the transport answers, a stream delivers, or a caller does
something. -/
def Quiescent (e : Engine) : Prop :=
  ∀ task preferAnswer, e.step (.resume task preferAnswer) = none

end TopicStream.Engine
