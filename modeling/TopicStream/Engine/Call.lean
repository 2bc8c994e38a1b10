import TopicStream.Engine.State

/-!
# The steps of a call

A subscription registers its listener, waits for the greeting and announces the active topics; if
that fails it undoes its registration. A removal takes effect at once and announces what is left.
When nothing is left, by a removal or by an undone subscription, the connection is torn down. An
announcement that is cut short by a teardown counts as made.
-/

namespace TopicStream.Engine

open Subscription

/-- Whether an error of an announcement counts. -/
def counts (error : ClientError) : Bool := !error.isAbort

/-- Ends a call whose worker has ended, or that has found none. The connection is idle unless a new
worker has been started meanwhile. -/
def concludeDisconnect (e : Engine) (c : Nat) (outcome : Outcome) : Engine :=
  let e := if e.slot.isNone then { e with connection := .idle } else e
  e.endCall c outcome

/-- Gives up the worker and waits for its end. -/
def beginDisconnect (e : Engine) (c : Nat) (outcome : Outcome) : Engine :=
  match e.takeWorker (some c) with
  | some (w, e) => e.setCall c (.joining w outcome)
  | none => e.concludeDisconnect c outcome

/-- Ends a removal that has announced what is left. -/
def concludeRemoval (e : Engine) (c : Nat) (outcome : Outcome) : Engine :=
  if e.registry.isEmpty then e.beginDisconnect c outcome else e.endCall c outcome

/-- Undoes the registration of a subscription that has failed. -/
def rollBack (e : Engine) (c : Nat) (key : String) (id : ListenerId) (error : ClientError) :
    Engine :=
  let e := { e with registry := (e.registry.removeListener key id).2 }
  if e.registry.isEmpty then e.beginDisconnect c (.failed error)
  else
    -- The server may hold the topic already, so what is left is announced.
    match e.announce? (.call c) with
    | some e' => e'.setCall c (.restoring error e.slot none)
    | none => e.endCall c (.failed error)

/-- Announces the topics for a call, or goes on without if there is nothing to announce. -/
def announceFor (e : Engine) (c : Nat) (otherwise : Engine → Engine) : Engine :=
  match e.announce? (.call c) with
  | some e' => e'.setCall c (.announcing e.slot none)
  | none => otherwise e

/-- Lets a call whose announcement has been made, or has not been due, go on. -/
def afterAnnouncement (e : Engine) (c : Nat) (call : Call) : Engine :=
  match call.registered with
  | some (key, id) => e.endCall c (.subscribed key id)
  | none => e.concludeRemoval c .done

/-- Lets a call whose announcement has failed go on. -/
def afterFailure (e : Engine) (c : Nat) (call : Call) (error : ClientError) : Engine :=
  match call.registered with
  | some (key, id) => e.rollBack c key id error
  | none => e.concludeRemoval c (.failed error)

/-- The error of a call that has waited too long for the greeting. It tells how long in whole
milliseconds. -/
def timeoutError (e : Engine) : Request → ClientError
  | .ensureConnected patience => .connectTimeout e.settings.url patience.toMillis
  | _ => .connectTimeout e.settings.url (Duration.ofMillis e.settings.connectTimeout).toMillis

/-- Lets a call that waits for the greeting go on. Readiness is looked at before the time. -/
def continueAwaiting (e : Engine) (c : Nat) (call : Call) (deadline : Nat) : Option Engine :=
  if e.ready then
    match call.registered with
    | some (key, id) => some (e.announceFor c fun e => e.endCall c (.subscribed key id))
    | none => some (e.endCall c .done)
  else if deadline ≤ e.now then
    let error := e.timeoutError call.request
    match call.registered with
    | some (key, id) => some (e.rollBack c key id error)
    | none => some (e.endCall c (.failed error))
  else none

/-- What a call that waits for an answer, or for the end of a worker, takes: the answer, `some none`
for being cut short, or nothing yet. If both are there, `preferAnswer` decides. -/
def takeAnswer (e : Engine) (watched : Option Nat) (answer : Option Answer) (preferAnswer : Bool) :
    Option (Option Answer) :=
  match answer, e.isGone watched with
  | none, false => none
  | none, true => some none
  | some a, false => some (some a)
  | some a, true => some (if preferAnswer then some a else none)

/-- Lets a call with an answered announcement go on. -/
def continueAnnouncing (e : Engine) (c : Nat) (call : Call) : Option Answer → Engine
  | some .crash => e.endCall c .crashed
  | some (.failure error) =>
    if counts error then e.afterFailure c call error else e.afterAnnouncement c call
  | some .success | none => e.afterAnnouncement c call

/-- Lets a call with an answered announcement of what is left go on. -/
def continueRestoring (e : Engine) (c : Nat) (error : ClientError) : Option Answer → Engine
  | some .crash => e.endCall c .crashed
  | _ => e.endCall c (.failed error)

/-- Lets a call go on to its next wait; nothing if it has ended or still has to wait. -/
def resumeCall (e : Engine) (c : Nat) (preferAnswer : Bool) : Option Engine :=
  match e.calls[c]? with
  | none => none
  | some call =>
    match call.phase with
    | .awaiting deadline => e.continueAwaiting c call deadline
    | .announcing watched answer =>
      (e.takeAnswer watched answer preferAnswer).map (e.continueAnnouncing c call)
    | .restoring error watched answer =>
      (e.takeAnswer watched answer preferAnswer).map (e.continueRestoring c error)
    | .joining w outcome => if e.isOver w then some (e.concludeDisconnect c outcome) else none
    | .ended _ => none

/-- Adds a call that is about to begin. -/
def addCall (e : Engine) (request : Request) (borrows : Bool)
    (registered : Option (String × ListenerId)) (phase : Call.Phase) : Engine :=
  { e with calls := e.calls ++ [⟨request, borrows, registered, false, phase⟩] }

/-- Begins a call and lets it go on to its first wait. -/
def beginCall (e : Engine) (request : Request) (borrows : Bool) : Engine :=
  let c := e.calls.length
  match request with
  | .subscribe topic options listener =>
    if topic = "" then
      let error := ClientError.invalidArgument "topic must be set"
      (e.addCall request borrows none (.ended (.failed error))).note (.returned c (.failed error))
    else
      let key := options.topicKey topic
      let (id, registry) := e.registry.add key listener
      let e := (note { e with registry } (.registered c key id)).ensureWorker
      e.addCall request borrows (some (key, id)) (.awaiting (e.now + e.settings.connectTimeout))
  | .ensureConnected patience =>
    let e := e.ensureWorker
    e.addCall request borrows none (.awaiting (e.now + patience.timerMillis))
  -- The phase of the calls below is replaced at once.
  | .disconnect =>
    (e.addCall request borrows none (.ended .done)).beginDisconnect c .done
  | .remove what =>
    let e := { e with registry := what.apply e.registry }
    (e.addCall request borrows none (.ended .done)).announceFor c fun e => e.concludeRemoval c .done

end TopicStream.Engine
