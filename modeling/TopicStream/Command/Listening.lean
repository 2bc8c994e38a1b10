import TopicStream.Command.Plan

/-!
# Listening

The command that listens subscribes to its topics one after the other, prints every event, and goes
on until it is interrupted; then it disconnects. It fails as soon as a subscription fails. All it
does is in reply to an effect of the engine or to the interruption.
-/

namespace TopicStream.Command

/-- Where a listening command stands. -/
inductive Listening.Phase where
  /-- It subscribes to a topic, with others to follow. -/
  | subscribing (topic : String) (rest : List String)
  /-- All subscriptions hold. -/
  | listening
  /-- It has been interrupted and disconnects. -/
  | leaving
  /-- It has ended with a status. -/
  | over (status : Nat)

/-- A listening command. -/
structure Listening where
  /-- How many topics it listens to. -/
  topics : Nat
  /-- Where it stands. -/
  phase : Listening.Phase

/-- What a listening command does: the lines it prints, the call it makes, and where it then
stands. -/
structure Reaction where
  /-- The lines in order. -/
  lines : List Line
  /-- The call, if any. -/
  call : Option Engine.Request
  /-- The command after it. -/
  after : Listening

namespace Listening

/-- The call that subscribes to a topic. Its listener is known by the name of the topic. -/
def subscription (topic : String) : Engine.Request :=
  .subscribe topic .none ⟨topic, .payload, false⟩

/-- Goes on to the next topic, or to listening if there is none. -/
def proceed (l : Listening) : List String → Reaction
  | topic :: rest => ⟨[], some (subscription topic), { l with phase := .subscribing topic rest }⟩
  | [] =>
    ⟨[.err ("listening on " ++ Nat.repr l.topics ++ " topic(s), Ctrl-C to stop")], none,
      { l with phase := .listening }⟩

/-- Who reports greetings and lost streams. -/
def observer : Engine.Observer := ⟨"terminal", false⟩

/-- The engine of a plan, with a credential that is exposed, and observers. -/
def engine (plan : Plan) (credential : Option String) : Engine :=
  { Engine.initial plan.settings credential with
    onConnect := [observer]
    onDisconnect := [observer] }

/-- The beginning of a listening command. -/
def start (plan : Plan) : Reaction :=
  proceed ⟨plan.topics.length, .listening⟩ plan.topics

/-- The line that reports an event. -/
def eventLine (topic : String) (payload : Json) : Line :=
  .out (Json.render (.object [("data", payload), ("topic", .string topic)]))

/-- What a listening command does about the end of its call. -/
def onReturn (l : Listening) (outcome : Engine.Outcome) : Reaction :=
  match l.phase, outcome with
  | .subscribing _ rest, .subscribed _ _ => l.proceed rest
  | .subscribing topic _, .failed error =>
    ⟨[failure ("subscribe " ++ topic ++ ": " ++ error.message)], none,
      { l with phase := .over failed }⟩
  -- Disconnecting cannot fail.
  | .leaving, _ => ⟨[], none, { l with phase := .over succeeded }⟩
  | _, _ => ⟨[], none, l⟩

/-- What a listening command does about an effect of the engine. -/
def onEvent (l : Listening) : Engine.Event → Reaction
  | .delivered _ _ listener payload => ⟨[eventLine listener.name payload], none, l⟩
  | .connected _ _ clientId => ⟨[.err ("connected (client id " ++ clientId ++ ")")], none, l⟩
  | .lost _ _ topics =>
    ⟨[.err ("connection lost, " ++ Nat.repr topics.length ++ " topic(s) pending")], none, l⟩
  | .returned _ outcome => l.onReturn outcome
  | _ => ⟨[], none, l⟩

/-- What a listening command does about an interruption. It looks for it only while it listens. -/
def onInterrupt (l : Listening) : Reaction :=
  match l.phase with
  | .listening => ⟨[], some .disconnect, { l with phase := .leaving }⟩
  | _ => ⟨[], none, l⟩

end Listening

end TopicStream.Command
