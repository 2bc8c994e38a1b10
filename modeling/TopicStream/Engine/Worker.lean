import TopicStream.Engine.State

/-!
# The steps of a worker

A worker makes attempt after attempt: it asks for a stream, reads it until it fails or ends, tells
the observers, and pauses. It ends when it is told to, which it looks at first whenever it goes on.
A greeting that it reads establishes the session and announces the topics; any other record is
delivered to the listeners of its topic.
-/

namespace TopicStream.Engine

/-- The headers with which a stream is asked for. -/
def streamHeaders (e : Engine) : List (String × String) :=
  [("Accept", "text/event-stream"), ("Cache-Control", "no-store"),
    ("Accept-Language", e.settings.lang), ("User-Agent", e.settings.userAgent)] ++
    (e.credential.map fun token => ("Authorization", token)).toList

/-- Asks for a stream. -/
def beginAttempt (e : Engine) (w epoch : Nat) : Engine :=
  let e := e.setConnection .connecting epoch
  (e.note (.requested w e.streamHeaders)).setWorker w (.opening none)

/-- Begins to read a stream that has been opened. -/
def beginReading (e : Engine) (w epoch : Nat) : Engine :=
  let e := e.setConnection .streaming epoch
  let serial := e.streams
  (note { e with streams := serial + 1 } (.opened w serial)).setWorker w (.reading (.fresh serial))

/-- Tells the observers of lost streams. -/
def notifyLost (e : Engine) (w : Nat) : Engine :=
  let topics := e.registry.activeTopics
  e.callEach (.lost w · topics) (·.crashes) e.onDisconnect

/-- All observers of lost streams are told, whichever of them crash. -/
theorem notifyLost_eq (e : Engine) (w : Nat) :
    e.notifyLost w = e.noteAll (e.onDisconnect.map fun o => .lost w o e.registry.activeTopics) :=
  callEach_eq_noteAll e _ _ _

/-- Ends an attempt and pauses. -/
def endAttempt (e : Engine) (w epoch : Nat) : Engine :=
  let e := (e.resetSession epoch).setConnection .reconnecting epoch
  (e.notifyLost w).setWorker w (.pausing (e.now + e.settings.pause))

/-- Ends a worker. -/
def finishWorker (e : Engine) (w epoch : Nat) : Engine :=
  (e.resetSession epoch).setWorker w .finished

/-- Tells the observers of greetings. -/
def notifyConnected (e : Engine) (w : Nat) (clientId : String) : Engine :=
  e.callEach (.connected w · clientId) (·.crashes) e.onConnect

/-- All observers of greetings are told, whichever of them crash. -/
theorem notifyConnected_eq (e : Engine) (w : Nat) (clientId : String) :
    e.notifyConnected w clientId = e.noteAll (e.onConnect.map fun o => .connected w o clientId) :=
  callEach_eq_noteAll e _ _ _

/-- Calls the listeners of a record in order of registration. -/
def dispatch (e : Engine) (w : Nat) (record : TopicStream.Event.Record) : Engine :=
  let payload := record.payload.getD .null
  e.callEach (fun (id, listener) => .delivered w id listener payload) (·.2.crashes)
    (e.registry.entries record.event)

/-- All listeners of a record are called, whichever of them crash. -/
theorem dispatch_eq (e : Engine) (w : Nat) (record : TopicStream.Event.Record) :
    e.dispatch w record = e.noteAll ((e.registry.entries record.event).map fun (id, listener) =>
      .delivered w id listener (record.payload.getD .null)) :=
  callEach_eq_noteAll e _ _ _

/-- Handles a record that a worker has read, with the rest of the body. -/
def handleRecord (e : Engine) (w epoch : Nat) (record : TopicStream.Event.Record) (body : Body) :
    Engine :=
  let e := e.note (.read w body.serial record)
  match record.handshake? with
  | none => (e.dispatch w record).setWorker w (.reading body)
  | some clientId =>
    match e.establish? clientId epoch with
    | none => e.setWorker w (.reading body)
    | some e =>
      match e.announce? (.worker w) with
      | some e => e.setWorker w (.greeting clientId body none)
      | none => (e.notifyConnected w clientId).setWorker w (.reading body)

/-- Goes on reading a body; nothing if it has to wait for more. -/
def readOn (e : Engine) (w epoch : Nat) (body : Body) : Option Engine :=
  match body.records.advance with
  | .yields (.ok record) records =>
    some (e.handleRecord w epoch record { body with records })
  | .yields (.error _) _ => some (e.endAttempt w epoch)
  | .takes records => some (e.setWorker w (.reading { body with records }))
  | .starves => if body.ended then some (e.endAttempt w epoch) else none

/-- Lets a worker that has not been told to end go on to its next wait; nothing if it still has to
wait. -/
def continueWorker (e : Engine) (w epoch : Nat) : Worker.Phase → Option Engine
  | .starting => some (e.beginAttempt w epoch)
  | .opening none => none
  | .opening (some .success) => some (e.beginReading w epoch)
  | .opening (some (.failure _)) => some (e.endAttempt w epoch)
  | .opening (some .crash) => some (e.setWorker w .crashed)
  | .reading body => e.readOn w epoch body
  | .greeting _ _ none => none
  | .greeting _ _ (some .crash) => some (e.setWorker w .crashed)
  -- A failed announcement leaves the session as it is.
  | .greeting clientId body (some _) =>
    some ((e.notifyConnected w clientId).setWorker w (.reading body))
  | .pausing resumes => if resumes ≤ e.now then some (e.beginAttempt w epoch) else none
  | .finished => none
  | .crashed => none

/-- Lets a worker go on to its next wait; nothing if it has ended or still has to wait. -/
def resumeWorker (e : Engine) (w : Nat) : Option Engine :=
  match e.workers[w]? with
  | none => none
  | some k =>
    if k.phase.isOver then none
    else if k.cancelled then some (e.finishWorker w k.epoch)
    else e.continueWorker w k.epoch k.phase

end TopicStream.Engine
