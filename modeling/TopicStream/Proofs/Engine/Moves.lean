import TopicStream.Engine.Step

/-!
# What tasks do when they go on

A task that goes on does one of a few things. `WorkerMove` and `CallMove` list them, each with all
that holds when it is done, and `StepMove` lists the steps, so that what is kept by every step need
not be proved along the functions that a step is made of.

## Main results

* `workerMove_resumeWorker`: a worker that goes on makes one of the moves of a worker;
* `callMove_resumeCall`: a call that goes on makes one of the moves of a call;
* `stepMove_of_step`: what a step can do, with the moves of the task that goes on.
-/

namespace TopicStream.Engine

open Subscription

/-! ### Workers -/

/-- The engine after a greeting has established the session. -/
def greeted (e : Engine) (w serial : Nat) (record : TopicStream.Event.Record) (clientId : String) :
    Engine :=
  { e.note (.read w serial record) with session := ⟨clientId, true⟩, ready := true }

/-- What a step of a worker can do. -/
inductive WorkerMove (e : Engine) (w : Nat) (k : Worker) : Engine → Prop
  /-- Ending, as it has been told to. -/
  | finish (cancelled : k.cancelled = true) : WorkerMove e w k (e.finishWorker w k.epoch)
  /-- Asking for a stream. -/
  | attempt (live : k.cancelled = false)
      (phase : k.phase = .starting ∨ ∃ resumes ≤ e.now, k.phase = .pausing resumes) :
      WorkerMove e w k (e.beginAttempt w k.epoch)
  /-- Beginning to read a stream. -/
  | read (live : k.cancelled = false) (phase : k.phase = .opening (some .success)) :
      WorkerMove e w k (e.beginReading w k.epoch)
  /-- Ending an attempt: the stream cannot be opened, has failed or has ended. -/
  | lose (live : k.cancelled = false)
      (phase : (∃ error, k.phase = .opening (some (.failure error))) ∨
        ∃ body, k.phase = .reading body ∧
          ((∃ error after, body.records.advance = .yields (.error error) after) ∨
            body.records.advance = .starves ∧ body.ended = true)) :
      WorkerMove e w k (e.endAttempt w k.epoch)
  /-- Crashing with the transport. -/
  | crash (live : k.cancelled = false)
      (phase : k.phase = .opening (some .crash) ∨
        ∃ clientId body, k.phase = .greeting clientId body (some .crash)) :
      WorkerMove e w k (e.setWorker w .crashed)
  /-- Taking a chunk. -/
  | take (live : k.cancelled = false) {body : Body} (phase : k.phase = .reading body)
      {after : TopicStream.Event.RecordStream ClientError}
      (next : body.records.advance = .takes after) :
      WorkerMove e w k (e.setWorker w (.reading { body with records := after }))
  /-- Delivering a record. -/
  | deliver (live : k.cancelled = false) {body : Body} (phase : k.phase = .reading body)
      {record : TopicStream.Event.Record} {after : TopicStream.Event.RecordStream ClientError}
      (next : body.records.advance = .yields (.ok record) after)
      (plain : record.handshake? = none) :
      WorkerMove e w k
        (((e.note (.read w body.serial record)).dispatch w record).setWorker w
          (.reading { body with records := after }))
  /-- Passing over a greeting that comes after the end of the epoch. -/
  | passOver (live : k.cancelled = false) {body : Body} (phase : k.phase = .reading body)
      {record : TopicStream.Event.Record} {after : TopicStream.Event.RecordStream ClientError}
      (next : body.records.advance = .yields (.ok record) after) {clientId : String}
      (greeting : record.handshake? = some clientId) (late : e.epoch ≠ k.epoch) :
      WorkerMove e w k
        ((e.note (.read w body.serial record)).setWorker w
          (.reading { body with records := after }))
  /-- Taking a greeting and announcing the topics. -/
  | announce (live : k.cancelled = false) {body : Body} (phase : k.phase = .reading body)
      {record : TopicStream.Event.Record} {after : TopicStream.Event.RecordStream ClientError}
      (next : body.records.advance = .yields (.ok record) after) {clientId : String}
      (greeting : record.handshake? = some clientId) (current : e.epoch = k.epoch)
      (due : (e.greeted w body.serial record clientId).announcement? =
        some (clientId, e.registry.activeTopics)) :
      WorkerMove e w k
        (((e.greeted w body.serial record clientId).note
          (.announced (.worker w) clientId e.registry.activeTopics)).setWorker w
          (.greeting clientId { body with records := after } none))
  /-- Taking a greeting without anything to announce. -/
  | establish (live : k.cancelled = false) {body : Body} (phase : k.phase = .reading body)
      {record : TopicStream.Event.Record} {after : TopicStream.Event.RecordStream ClientError}
      (next : body.records.advance = .yields (.ok record) after) {clientId : String}
      (greeting : record.handshake? = some clientId) (current : e.epoch = k.epoch)
      (nothing : (e.greeted w body.serial record clientId).announcement? = none) :
      WorkerMove e w k
        (((e.greeted w body.serial record clientId).notifyConnected w clientId).setWorker w
          (.reading { body with records := after }))
  /-- Telling the observers of a greeting whose announcement has been answered. -/
  | greet (live : k.cancelled = false) {clientId : String} {body : Body} {answer : Answer}
      (phase : k.phase = .greeting clientId body (some answer)) (survives : answer ≠ .crash) :
      WorkerMove e w k ((e.notifyConnected w clientId).setWorker w (.reading body))

/-- What workers leave alone. -/
structure WorkerFrame (e e' : Engine) : Prop where
  /-- The listeners. -/
  registry : e'.registry = e.registry
  /-- The calls. -/
  calls : e'.calls = e.calls
  /-- Which worker is the current one. -/
  slot : e'.slot = e.slot

theorem frame_of_workerMove {e e' : Engine} {w : Nat} {k : Worker} (h : WorkerMove e w k e') :
    WorkerFrame e e' := by
  cases h with
  | finish cancelled =>
    unfold finishWorker resetSession
    split <;> exact ⟨rfl, rfl, rfl⟩
  | attempt live phase =>
    unfold beginAttempt setConnection
    split <;> exact ⟨rfl, rfl, rfl⟩
  | read live phase =>
    unfold beginReading setConnection
    split <;> exact ⟨rfl, rfl, rfl⟩
  | lose live phase =>
    simp only [endAttempt, notifyLost_eq]
    unfold resetSession setConnection
    split <;> exact ⟨rfl, rfl, rfl⟩
  | deliver =>
    rw [dispatch_eq]
    exact ⟨rfl, rfl, rfl⟩
  | establish | greet =>
    rw [notifyConnected_eq]
    exact ⟨rfl, rfl, rfl⟩
  | crash | take | passOver | announce => exact ⟨rfl, rfl, rfl⟩

/-- What there is to announce, if anything, are the active topics for the client id. -/
theorem announcement?_eq_some {e : Engine} {clientId : String} {topics : List String}
    (h : e.announcement? = some (clientId, topics)) :
    clientId = e.session.clientId ∧ topics = e.registry.activeTopics := by
  rw [announcement?] at h
  split at h
  · cases h
    exact ⟨rfl, rfl⟩
  · cases h

theorem workerMove_handleRecord {e : Engine} {w : Nat} {k : Worker} {body : Body}
    {record : TopicStream.Event.Record} {after : TopicStream.Event.RecordStream ClientError}
    (live : k.cancelled = false) (phase : k.phase = .reading body)
    (next : body.records.advance = .yields (.ok record) after) :
    WorkerMove e w k (e.handleRecord w k.epoch record { body with records := after }) := by
  simp only [handleRecord]
  split
  · rename_i hplain
    exact .deliver live phase next hplain
  · rename_i clientId hgreeting
    -- a greeting establishes the session only in the epoch of its worker
    by_cases hepoch : e.epoch = k.epoch
    · have hest : (e.note (.read w body.serial record)).establish? clientId k.epoch =
          some (e.greeted w body.serial record clientId) := if_pos hepoch
      rw [hest]
      simp only
      split
      · rename_i e' hannounce
        obtain ⟨⟨clientId', topics⟩, hdue, rfl⟩ := Option.map_eq_some_iff.1 hannounce
        obtain ⟨rfl, rfl⟩ := announcement?_eq_some hdue
        exact .announce live phase next hgreeting hepoch hdue
      · rename_i hannounce
        exact .establish live phase next hgreeting hepoch (Option.map_eq_none_iff.1 hannounce)
    · have hest : (e.note (.read w body.serial record)).establish? clientId k.epoch = none :=
        if_neg hepoch
      rw [hest]
      exact .passOver live phase next hgreeting hepoch

theorem workerMove_readOn {e e' : Engine} {w : Nat} {k : Worker} {body : Body}
    (live : k.cancelled = false) (phase : k.phase = .reading body)
    (h : e.readOn w k.epoch body = some e') : WorkerMove e w k e' := by
  rw [readOn] at h
  split at h
  · rename_i hnext
    cases h
    exact workerMove_handleRecord live phase hnext
  · rename_i error after hnext
    cases h
    exact .lose live (.inr ⟨body, phase, .inl ⟨error, after, hnext⟩⟩)
  · rename_i hnext
    cases h
    exact .take live phase hnext
  · rename_i hnext
    split at h
    · rename_i hended
      cases h
      exact .lose live (.inr ⟨body, phase, .inr ⟨hnext, hended⟩⟩)
    · cases h

theorem workerMove_continueWorker {e e' : Engine} {w : Nat} {k : Worker}
    (live : k.cancelled = false) (h : e.continueWorker w k.epoch k.phase = some e') :
    WorkerMove e w k e' := by
  rw [continueWorker.eq_def] at h
  -- one case for each equation; a worker that waits for something cannot go on
  split at h
  · rename_i hphase
    cases h
    exact .attempt live (.inl hphase)
  · cases h
  · rename_i hphase
    cases h
    exact .read live hphase
  · rename_i error hphase
    cases h
    exact .lose live (.inl ⟨error, hphase⟩)
  · rename_i hphase
    cases h
    exact .crash live (.inl hphase)
  · rename_i hphase
    exact workerMove_readOn live hphase h
  · cases h
  · rename_i clientId body hphase
    cases h
    exact .crash live (.inr ⟨clientId, body, hphase⟩)
  · -- any answer but a crash, a failed announcement included
    rename_i hcrash hphase
    cases h
    exact .greet live hphase (fun heq => hcrash (by rw [heq]))
  · rename_i resumes hphase
    split at h
    · rename_i hdue
      cases h
      exact .attempt live (.inr ⟨resumes, hdue, hphase⟩)
    · cases h
  · cases h
  · cases h

/-- A worker that goes on has not ended, and does one of the things that a worker can do. -/
theorem workerMove_resumeWorker {e e' : Engine} {w : Nat} (h : e.resumeWorker w = some e') :
    ∃ k, e.workers[w]? = some k ∧ k.phase.isOver = false ∧ WorkerMove e w k e' := by
  rw [resumeWorker] at h
  split at h
  · cases h
  · rename_i k hk
    refine ⟨k, hk, ?_⟩
    split at h
    · cases h
    · rename_i hover
      refine ⟨by simpa using hover, ?_⟩
      split at h
      · -- the order to end is looked at before anything else
        rename_i hcancelled
        cases h
        exact .finish hcancelled
      · rename_i hlive
        exact workerMove_continueWorker (by simpa using hlive) h

/-! ### Calls -/

/-- Whether an announcement with this answer counts as made. -/
def Answer.isMade : Answer → Bool
  | .success => true
  | .failure error => !counts error
  | .crash => false

/-- What a step of a call can do. -/
inductive CallMove (e : Engine) (c : Nat) (call : Call) : Engine → Prop
  /-- Announcing the topic of a subscription, as the greeting has come. -/
  | announce {deadline : Nat} {key : String} {id : ListenerId}
      (phase : call.phase = .awaiting deadline)
      (ready : e.ready = true) (subscriber : call.registered = some (key, id)) :
      CallMove e c call (e.announceFor c fun e => e.endCall c (.subscribed key id))
  /-- Ending a wait for the greeting, as it has come. -/
  | greeted {deadline : Nat} (phase : call.phase = .awaiting deadline) (ready : e.ready = true)
      (waiter : call.registered = none) : CallMove e c call (e.endCall c .done)
  /-- Ending a wait for the greeting, as the time is over. -/
  | timeOut {deadline : Nat} (phase : call.phase = .awaiting deadline) (waits : e.ready = false)
      (due : deadline ≤ e.now) (waiter : call.registered = none) :
      CallMove e c call (e.endCall c (.failed (e.timeoutError call.request)))
  /-- Undoing a registration, as the time is over or the announcement has failed. -/
  | undo {key : String} {id : ListenerId} {error : ClientError}
      (subscriber : call.registered = some (key, id))
      (cause : (∃ deadline ≤ e.now, call.phase = .awaiting deadline ∧ e.ready = false ∧
          error = e.timeoutError call.request) ∨
        ∃ watched, call.phase = .announcing watched (some (.failure error)) ∧
          counts error = true) :
      CallMove e c call (e.rollBack c key id error)
  /-- Ending a subscription that has been announced or whose announcement has been cut short. -/
  | subscribed {watched : Option Nat} {answer : Option Answer} {key : String} {id : ListenerId}
      (phase : call.phase = .announcing watched answer)
      (subscriber : call.registered = some (key, id))
      (cause : (∃ a, answer = some a ∧ a.isMade = true) ∨ e.isGone watched = true) :
      CallMove e c call (e.endCall c (.subscribed key id))
  /-- Ending a removal after its announcement. -/
  | conclude {watched : Option Nat} {answer : Option Answer} {outcome : Outcome}
      (phase : call.phase = .announcing watched answer) (remover : call.registered = none)
      (cause : (outcome = .done ∧
          ((∃ a, answer = some a ∧ a.isMade = true) ∨ e.isGone watched = true)) ∨
        ∃ error, outcome = .failed error ∧ answer = some (.failure error) ∧ counts error = true) :
      CallMove e c call (e.concludeRemoval c outcome)
  /-- Ending with the error because of which the registration has been undone. -/
  | restored {error : ClientError} {watched : Option Nat} {answer : Option Answer}
      (phase : call.phase = .restoring error watched answer) :
      CallMove e c call (e.endCall c (.failed error))
  /-- Crashing with the transport. -/
  | crash (phase : (∃ watched, call.phase = .announcing watched (some .crash)) ∨
        ∃ error watched, call.phase = .restoring error watched (some .crash)) :
      CallMove e c call (e.endCall c .crashed)
  /-- Ending after the worker that has been given up. -/
  | join {w : Nat} {outcome : Outcome} (phase : call.phase = .joining w outcome)
      (ended : e.isOver w = true) : CallMove e c call (e.concludeDisconnect c outcome)

section Calls

variable {e e' : Engine} {c : Nat} {call : Call}

/-- A call takes the answer, or sees that the worker it watches is gone. -/
theorem takeAnswer_eq_some {watched : Option Nat} {answer : Option Answer} {preferAnswer : Bool}
    {taken : Option Answer} (h : e.takeAnswer watched answer preferAnswer = some taken) :
    (∃ a, answer = some a ∧ taken = some a) ∨ (e.isGone watched = true ∧ taken = none) := by
  unfold takeAnswer at h
  split at h
  · cases h
  · rename_i hgone
    cases h
    exact .inr ⟨hgone, rfl⟩
  · rename_i a hgone
    cases h
    exact .inl ⟨a, rfl, rfl⟩
  · rename_i a hgone
    cases h
    -- both are there, and the call takes what it would rather see
    by_cases hprefer : preferAnswer = true
    · exact .inl ⟨a, rfl, if_pos hprefer⟩
    · exact .inr ⟨hgone, if_neg hprefer⟩

theorem callMove_continueAwaiting {deadline : Nat} (phase : call.phase = .awaiting deadline)
    (h : e.continueAwaiting c call deadline = some e') : CallMove e c call e' := by
  unfold continueAwaiting at h
  split at h
  · rename_i hready
    split at h
    · rename_i key id hsubscriber
      cases h
      exact .announce phase hready hsubscriber
    · rename_i hwaiter
      cases h
      exact .greeted phase hready hwaiter
  · rename_i hready
    have hwaits : e.ready = false := by simpa using hready
    split at h
    · rename_i hdue
      split at h
      · rename_i key id hsubscriber
        cases h
        exact .undo hsubscriber (.inl ⟨deadline, hdue, phase, hwaits, rfl⟩)
      · rename_i hwaiter
        cases h
        exact .timeOut phase hwaits hdue hwaiter
    · cases h

theorem callMove_afterAnnouncement {watched : Option Nat} {answer : Option Answer}
    (phase : call.phase = .announcing watched answer)
    (cause : (∃ a, answer = some a ∧ a.isMade = true) ∨ e.isGone watched = true) :
    CallMove e c call (e.afterAnnouncement c call) := by
  unfold afterAnnouncement
  split
  · rename_i key id hsubscriber
    exact .subscribed phase hsubscriber cause
  · rename_i hremover
    exact .conclude phase hremover (.inl ⟨rfl, cause⟩)

theorem callMove_continueAnnouncing {watched : Option Nat} {answer taken : Option Answer}
    (phase : call.phase = .announcing watched answer)
    (htaken : (∃ a, answer = some a ∧ taken = some a) ∨ (e.isGone watched = true ∧ taken = none)) :
    CallMove e c call (e.continueAnnouncing c call taken) := by
  rcases htaken with ⟨a, rfl, rfl⟩ | ⟨hgone, rfl⟩
  · cases a with
    | success => exact callMove_afterAnnouncement phase (.inl ⟨.success, rfl, rfl⟩)
    | crash => exact .crash (.inl ⟨watched, phase⟩)
    | failure error =>
      rw [continueAnnouncing]
      by_cases hcounts : counts error = true
      · rw [if_pos hcounts]
        unfold afterFailure
        split
        · rename_i key id hsubscriber
          exact .undo hsubscriber (.inr ⟨watched, phase, hcounts⟩)
        · rename_i hremover
          exact .conclude phase hremover (.inr ⟨error, rfl, rfl, hcounts⟩)
      · rw [if_neg hcounts]
        refine callMove_afterAnnouncement phase (.inl ⟨.failure error, rfl, ?_⟩)
        simpa [Answer.isMade] using hcounts
  · exact callMove_afterAnnouncement phase (.inr hgone)

theorem callMove_continueRestoring {error : ClientError} {watched : Option Nat}
    {answer taken : Option Answer} (phase : call.phase = .restoring error watched answer)
    (htaken : (∃ a, answer = some a ∧ taken = some a) ∨ (e.isGone watched = true ∧ taken = none)) :
    CallMove e c call (e.continueRestoring c error taken) := by
  rcases htaken with ⟨a, rfl, rfl⟩ | ⟨-, rfl⟩
  · cases a with
    | crash => exact .crash (.inr ⟨error, watched, phase⟩)
    | success => exact .restored phase
    | failure _ => exact .restored phase
  · exact .restored phase

/-- A call that goes on does one of the things that a call can do. -/
theorem callMove_resumeCall {preferAnswer : Bool} (h : e.resumeCall c preferAnswer = some e') :
    ∃ call, e.calls[c]? = some call ∧ CallMove e c call e' := by
  unfold resumeCall at h
  split at h
  · cases h
  · rename_i call hcall
    refine ⟨call, hcall, ?_⟩
    split at h
    · rename_i hphase
      exact callMove_continueAwaiting hphase h
    · rename_i hphase
      obtain ⟨taken, htaken, rfl⟩ := Option.map_eq_some_iff.1 h
      exact callMove_continueAnnouncing hphase (takeAnswer_eq_some htaken)
    · rename_i hphase
      obtain ⟨taken, htaken, rfl⟩ := Option.map_eq_some_iff.1 h
      exact callMove_continueRestoring hphase (takeAnswer_eq_some htaken)
    · rename_i hphase
      split at h
      · rename_i hover
        cases h
        exact .join hphase hover
      · cases h
    · cases h

end Calls

/-! ### The beginning of a call -/

section Begin

variable (e : Engine)

/-- The engine after a subscription to a topic has registered its listener. -/
def withRegistration (topic : String) (options : Options) (listener : Listener) : Engine :=
  note { e with registry := (e.registry.add (options.topicKey topic) listener).2 }
    (.registered e.calls.length (options.topicKey topic) ⟨e.registry.issued + 1⟩)

/-- The engine after a removal has taken effect, with its call. -/
def withRemoval (what : Removal) (borrows : Bool) : Engine :=
  { e with registry := what.apply e.registry }.addCall (.remove what) borrows none (.ended .done)

/-- A removal that leaves no topic tears the connection down. -/
theorem concludeRemoval_of_isEmpty (hempty : e.registry.isEmpty = true) (c : Nat)
    (outcome : Outcome) : e.concludeRemoval c outcome = e.beginDisconnect c outcome :=
  if_pos hempty

/-- An undone registration that leaves no topic tears the connection down. -/
theorem rollBack_of_isEmpty {key : String} {id : ListenerId}
    (hempty : (e.registry.removeListener key id).2.isEmpty = true) (c : Nat)
    (error : ClientError) :
    e.rollBack c key id error =
      { e with registry := (e.registry.removeListener key id).2 }.beginDisconnect c
        (.failed error) :=
  if_pos hempty

/-- A subscription to a topic registers its listener, sees to it that a worker is running, and waits
for the greeting. -/
theorem beginCall_subscribe_eq {topic : String} (htopic : topic ≠ "") (options : Options)
    (listener : Listener) (borrows : Bool) :
    let e₁ := (e.withRegistration topic options listener).ensureWorker
    e.beginCall (.subscribe topic options listener) borrows =
      e₁.addCall (.subscribe topic options listener) borrows
        (some (options.topicKey topic, ⟨e.registry.issued + 1⟩))
        (.awaiting (e₁.now + e₁.settings.connectTimeout)) := by
  simp only [beginCall, if_neg htopic]
  rfl

/-- A removal announces what is left once it has taken effect. -/
theorem beginCall_remove_eq (what : Removal) (borrows : Bool) :
    e.beginCall (.remove what) borrows =
      (e.withRemoval what borrows).announceFor e.calls.length fun e₁ =>
        e₁.concludeRemoval e.calls.length .done :=
  rfl

end Begin

/-! ### Steps -/

/-- What a step can do, with what must hold for it. -/
inductive StepMove (e : Engine) : Action → Engine → Prop
  /-- Starting a call through the client. -/
  | start (alive : e.clientAlive = true) (request : Request) :
      StepMove e (.start request) (e.beginCall request true)
  /-- Closing a handle, which starts the removal of its registration. -/
  | closeHandle {c : Nat} {key : String} {id : ListenerId}
      (handle : e.calls[c]?.bind Call.handle? = some (key, id)) :
      StepMove e (.closeHandle c) ((e.useHandle c).beginCall (.remove (.listener key id)) false)
  /-- Letting a worker go on. -/
  | worker {w : Nat} {k : Worker} {e' : Engine} (present : e.workers[w]? = some k)
      (running : k.phase.isOver = false) (move : WorkerMove e w k e') (preferAnswer : Bool) :
      StepMove e (.resume (.worker w) preferAnswer) e'
  /-- Letting a call go on. -/
  | call {c : Nat} {call : Call} {e' : Engine} (present : e.calls[c]? = some call)
      (move : CallMove e c call e') (preferAnswer : Bool) :
      StepMove e (.resume (.call c) preferAnswer) e'
  /-- Handing an answer to a task. -/
  | answer {task : Task} (awaited : e.awaitsAnswer task = true) (answer : Answer) :
      StepMove e (.answer task answer) (e.giveAnswer task answer)
  /-- An item of a body arrives. -/
  | arrive {serial : Nat} (isOpen : e.isOpen serial = true) (item : Except ClientError Bytes) :
      StepMove e (.arrive serial item)
        ((e.mapStream serial (·.arrive item)).note (.arrived serial item))
  /-- A body ends. -/
  | finish {serial : Nat} (isOpen : e.isOpen serial = true) :
      StepMove e (.finish serial) ((e.mapStream serial Body.finish).note (.ended serial))
  /-- Time passes. -/
  | tick {time : Nat} (idle : e.isQuiescent = true) (later : e.now < time)
      (due : ∀ deadline ∈ e.deadlines, time ≤ deadline) :
      StepMove e (.tick time) { e with now := time }
  /-- Giving up a client that has no worker. -/
  | dropClient (alive : e.clientAlive = true) (free : e.isBorrowed = false)
      (vacant : e.slot = none) : StepMove e .dropClient { e with clientAlive := false }
  /-- Giving up a client with its worker. -/
  | dropWorker (alive : e.clientAlive = true) (free : e.isBorrowed = false) {w : Nat} {e' : Engine}
      (taken : { e with clientAlive := false }.takeWorker none = some (w, e')) :
      StepMove e .dropClient e'
  /-- Changing the credential. -/
  | setCredential (token : Option String) :
      StepMove e (.setCredential token) { e with credential := token }
  /-- Adding an observer of greetings. -/
  | observeConnect (alive : e.clientAlive = true) (observer : Observer) :
      StepMove e (.observeConnect observer) { e with onConnect := e.onConnect ++ [observer] }
  /-- Adding an observer of lost streams. -/
  | observeDisconnect (alive : e.clientAlive = true) (observer : Observer) :
      StepMove e (.observeDisconnect observer)
        { e with onDisconnect := e.onDisconnect ++ [observer] }

/-- A worker is given up unless the slot is empty. -/
theorem slot_eq_none_of_takeWorker {e : Engine} {call : Option Nat}
    (h : e.takeWorker call = none) : e.slot = none := by
  unfold takeWorker at h
  split at h
  · assumption
  · cases h

/-- A step does one of the things that a step can do. -/
theorem stepMove_of_step {e e' : Engine} {action : Action} (h : e.step action = some e') :
    StepMove e action e' := by
  -- most actions only ask whether they can happen now
  cases action with
  | start request =>
    obtain ⟨halive, hbegins⟩ := Option.ite_none_right_eq_some.1 h
    cases hbegins
    exact .start halive request
  | closeHandle c =>
    rw [step] at h
    split at h
    · rename_i hhandle
      cases h
      exact .closeHandle hhandle
    · cases h
  | resume task preferAnswer =>
    cases task with
    | worker w =>
      obtain ⟨k, hk, hover, hmove⟩ := workerMove_resumeWorker h
      exact .worker hk hover hmove preferAnswer
    | call c =>
      obtain ⟨call, hcall, hmove⟩ := callMove_resumeCall h
      exact .call hcall hmove preferAnswer
  | answer task answer =>
    obtain ⟨hawaits, hgives⟩ := Option.ite_none_right_eq_some.1 h
    cases hgives
    exact .answer hawaits answer
  | arrive serial item =>
    obtain ⟨hopen, harrives⟩ := Option.ite_none_right_eq_some.1 h
    cases harrives
    exact .arrive hopen item
  | finish serial =>
    obtain ⟨hopen, hends⟩ := Option.ite_none_right_eq_some.1 h
    cases hends
    exact .finish hopen
  | tick time =>
    obtain ⟨hdue, hpasses⟩ := Option.ite_none_right_eq_some.1 h
    cases hpasses
    obtain ⟨⟨hidle, hlater⟩, hall⟩ : (e.isQuiescent = true ∧ e.now < time) ∧
        ∀ deadline ∈ e.deadlines, time ≤ deadline := by simpa using hdue
    exact .tick hidle hlater hall
  | dropClient =>
    obtain ⟨hgoes, hdrops⟩ := Option.ite_none_right_eq_some.1 h
    obtain ⟨halive, hfree⟩ : e.clientAlive = true ∧ e.isBorrowed = false := by simpa using hgoes
    cases hdrops
    cases htake : { e with clientAlive := false }.takeWorker none with
    | none =>
      have hvacant := slot_eq_none_of_takeWorker htake
      exact .dropClient halive hfree hvacant
    | some p =>
      obtain ⟨w, e₁⟩ := p
      exact .dropWorker halive hfree htake
  | setCredential token =>
    cases h
    exact .setCredential token
  | observeConnect observer =>
    obtain ⟨halive, hadds⟩ := Option.ite_none_right_eq_some.1 h
    cases hadds
    exact .observeConnect halive observer
  | observeDisconnect observer =>
    obtain ⟨halive, hadds⟩ := Option.ite_none_right_eq_some.1 h
    cases hadds
    exact .observeDisconnect halive observer

end TopicStream.Engine
