import TopicStream.Simulation.Transport
import TopicStream.Subscription.Collection

/-!
# Scenarios

A scenario is a list of steps, taken one after the other: what callers do with a client, what the
server does with its streams, how the transport behaves, and how time passes. After each step the
engine runs until nothing can go on without the clock or another step; the report of a step says
what has happened up to there.
-/

namespace TopicStream.Simulation

open Engine

/-- What calls are reported as. -/
structure Label where
  /-- The name of the call. -/
  name : String
  /-- What is reported when it has done what it was asked. -/
  done : String

/-- A step of a scenario. -/
inductive Step where
  /-- The server sends bytes on a stream, the latest if none is given. -/
  | push (stream : Option Nat) (data : Bytes)
  /-- The server ends a stream. -/
  | close (stream : Option Nat)
  /-- A stream fails. -/
  | breakStream (stream : Option Nat) (error : ClientError)
  /-- The credential changes. -/
  | setCredential (token : Option String)
  /-- Announcements get another rule. -/
  | setSends (rule : Rule)
  /-- Streams get another rule. -/
  | setOpens (rule : Rule)
  /-- Held announcements are answered. -/
  | releaseSends (error : Option ClientError)
  /-- Held requests for streams are answered. -/
  | releaseOpens (error : Option ClientError)
  /-- Time passes. -/
  | advance (ms : Nat)
  /-- A caller starts a call, which may fail before it reaches the engine. -/
  | call (label : Label) (request : Except ClientError Request)
  /-- The holder of the handle of a named subscription closes it. -/
  | closeHandle (label : Label) (subscription : String)
  /-- An observer of greetings is added. -/
  | observeConnect (observer : Observer)
  /-- An observer of lost streams is added. -/
  | observeDisconnect (observer : Observer)
  /-- The client is dropped. It goes when the last call through it has ended. Dropping it again does
  nothing. -/
  | dropClient

/-- What a step itself results in. -/
inductive Reply where
  /-- Nothing. -/
  | none
  /-- Whether it had an effect. -/
  | flag (value : Bool)
  /-- How often it had an effect. -/
  | count (value : Nat)
  /-- There is no such stream. -/
  | noStream
  /-- There is no such handle. -/
  | noHandle
  /-- There is no client. -/
  | noClient

/-- The state of the client. -/
structure View where
  /-- The state of the connection. -/
  connection : Connection
  /-- Whether the greeting has arrived. -/
  connected : Bool
  /-- The client id. -/
  clientId : String
  /-- The active topics. -/
  topics : List String

/-- What has happened in a step. -/
structure Report where
  /-- The time after it. -/
  time : Nat
  /-- The state of the client after it, if there is one. -/
  view : Option View
  /-- What the step itself resulted in. -/
  reply : Reply
  /-- The effects in order. -/
  events : List Engine.Event
  /-- The calls that have ended, in order, with what they are reported as when done. -/
  ended : List (Label × Outcome)

/-- A scenario under way. -/
structure Stage where
  /-- The engine and its transport. -/
  world : World
  /-- The labels of the calls. -/
  labels : List Label
  /-- The calls whose handles are kept, by the name of the subscription. -/
  handles : KeyMap Nat
  /-- Whether the client has been dropped. -/
  dropped : Bool

namespace Stage

/-- The beginning of a scenario. -/
def initial (settings : Settings) (credential : Option String) : Stage where
  world := .ofEngine (.initial settings credential) .allSucceed .allSucceed
  labels := []
  handles := .empty
  dropped := false

/-- The outcomes of the calls among effects, with their labels. -/
def endedCalls (labels : List Label) (events : List Engine.Event) :
    List (Nat × Label × Outcome) :=
  events.filterMap fun
    | .returned c outcome => labels[c]?.map (c, ·, outcome)
    | _ => none

/-- Keeps the handles of subscriptions that have succeeded. -/
def keepHandles (handles : KeyMap Nat) (ended : List (Nat × Label × Outcome)) : KeyMap Nat :=
  ended.foldl (fun m (c, label, outcome) =>
    match outcome with
    | .subscribed _ _ => m.insert label.name c
    | _ => m) handles

/-- The state of the client. -/
def view (s : Stage) : Option View :=
  if s.dropped then none
  else
    let e := s.world.engine
    some ⟨e.connection, e.session.ready, e.session.clientId, e.registry.activeTopics⟩

/-- The serial number of a stream that has been opened. -/
def serial? (s : Stage) (stream : Option Nat) : Option Nat :=
  let opened := s.world.engine.streams
  let serial := stream.getD (opened - 1)
  if serial < opened then some serial else none

/-- Lets something happen to a stream. -/
def onStream (s : Stage) (stream : Option Nat) (action : Nat → Action) : World × Reply :=
  match s.serial? stream with
  | none => (s.world, .noStream)
  | some serial =>
    if s.world.engine.isOpen serial then (s.world.perform (action serial), .flag true)
    else (s.world, .flag false)

/-- The answer that a release gives. -/
def releaseAnswer : Option ClientError → Answer
  | some error => .failure error
  | none => .success

/-- Closes a step: reports its effects, and the calls that failed before they reached the engine. -/
def close (s : Stage) (reply : Reply) (failed : List (Label × Outcome)) : Stage × Report :=
  let (events, world) := s.world.takeEffects
  let ended := endedCalls s.labels events
  let stage := { s with world, handles := keepHandles s.handles ended }
  (stage,
    { time := world.engine.now
      view := stage.view
      reply
      events
      ended := failed ++ ended.map (·.2) })

/-- Takes a step. -/
def take (s : Stage) (step : Step) : Stage × Report :=
  let quiet (world : World) : Stage × Report := { s with world }.close .none []
  let replied (p : World × Reply) : Stage × Report := { s with world := p.1 }.close p.2 []
  let released (p : Nat × World) : Stage × Report :=
    { s with world := p.2 }.close (.count p.1) []
  let ifClient (report : Stage × Report) : Stage × Report :=
    if s.dropped then s.close .noClient [] else report
  match step with
  | .push stream data => replied (s.onStream stream fun serial => .arrive serial (.ok data))
  | .close stream => replied (s.onStream stream .finish)
  | .breakStream stream error =>
    replied (s.onStream stream fun serial => .arrive serial (.error error))
  | .setCredential token => quiet (s.world.perform (.setCredential token))
  | .setSends rule => quiet { s.world with sends := rule }
  | .setOpens rule => quiet { s.world with opens := rule }
  | .releaseSends error => released (s.world.release s.world.heldSends (releaseAnswer error))
  | .releaseOpens error => released (s.world.release s.world.heldOpens (releaseAnswer error))
  | .advance ms => quiet (s.world.advance ms)
  | .call label (.error error) =>
    ifClient (s.close .none [(label, .failed error)])
  | .call label (.ok request) =>
    let world := s.world.begin (.start request)
    ifClient ({ s with world, labels := s.labels ++ [label] }.close .none [])
  | .closeHandle label subscription =>
    match s.handles.get? subscription with
    | none => s.close .noHandle []
    | some c =>
      { s with
        world := s.world.begin (.closeHandle c)
        labels := s.labels ++ [label]
        handles := s.handles.erase subscription }.close .none []
  | .observeConnect o => ifClient (quiet (s.world.perform (.observeConnect o)))
  | .observeDisconnect o => ifClient (quiet (s.world.perform (.observeDisconnect o)))
  | .dropClient =>
    if s.dropped then s.close .none []
    else { s with world := { s.world with leaving := true }.settle, dropped := true }.close .none []

end Stage

/-- The reports of the steps of a scenario. -/
def run (settings : Settings) (credential : Option String) (steps : List Step) : List Report :=
  go (.initial settings credential) steps
where
  /-- The reports of the remaining steps. -/
  go (s : Stage) : List Step → List Report
    | [] => []
    | step :: steps =>
      let (s, report) := s.take step
      report :: go s steps

end TopicStream.Simulation
