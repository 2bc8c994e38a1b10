import TopicStream.Proofs.Engine.Calls
import TopicStream.Proofs.Engine.Log

/-!
# What steps note

A step appends to the trace what it does, all of it at the time of the step (`Notes`), and what is
the doing of a task, or is handed to one, concerns the task that the action names (`notes_of_step`).
So the part of the trace that concerns a task (`entriesOf`) grows only when the task begins, goes on
or is answered.

A call that goes on notes what it does and goes to a phase (`Proceeds`). Where it tears the
connection down it either ends at once or waits for the worker that it gives up (`Closes`).
-/

namespace TopicStream.Engine

open Subscription

/-! ### Whom an event concerns -/

/-- The task whose doing this is or to which it is handed, if there is one. -/
def Event.task? : Event → Option Task
  | .registered c _ _ | .retired _ (some c) | .returned c _ => some (.call c)
  | .requested w _ | .opened w _ | .read w _ _ | .delivered w _ _ _ | .connected w _ _
  | .lost w _ _ => some (.worker w)
  | .announced task _ _ | .answered task _ => some task
  | .started _ | .retired _ none | .arrived _ _ | .ended _ => none

/-- What has happened so far and concerns a task, in order and with its times. -/
def entriesOf (e : Engine) (task : Task) : List Entry :=
  e.trace.filter fun entry => entry.event.task? = some task

/-- What has happened so far and concerns a task, in order. -/
def eventsOf (e : Engine) (task : Task) : List Event :=
  e.events.filter fun event => event.task? = some task

/-- The task that an action lets begin or go on, or hands an answer to. -/
def Action.task? (e : Engine) : Action → Option Task
  | .start _ | .closeHandle _ => some (.call e.calls.length)
  | .resume task _ | .answer task _ => some task
  | _ => none

/-! ### Notes -/

/-- Some things happen at one time, and the settings stay as they are. -/
structure Notes (e e' : Engine) (more : List Event) : Prop where
  /-- What happens is appended to the trace. -/
  trace : e'.trace = e.trace ++ more.map (⟨e.now, ·⟩)
  /-- No time passes. -/
  now : e'.now = e.now
  /-- The settings stay as they are. -/
  settings : e'.settings = e.settings

section Notes

variable {e e' e'' : Engine} {more more' : List Event} {task : Task}

theorem Notes.refl (e : Engine) : Notes e e [] := ⟨(List.append_nil _).symm, rfl, rfl⟩

/-- What leaves the trace alone notes nothing. -/
theorem Notes.of_trace (htrace : e'.trace = e.trace) (hnow : e'.now = e.now)
    (hsettings : e'.settings = e.settings) : Notes e e' [] :=
  ⟨htrace.trans (List.append_nil _).symm, hnow, hsettings⟩

theorem Notes.trans (h : Notes e e' more) (h' : Notes e' e'' more') :
    Notes e e'' (more ++ more') where
  trace := by
    rw [h'.trace, h.trace, h.now, List.map_append, List.append_assoc]
  now := h'.now.trans h.now
  settings := h'.settings.trans h.settings

/-- The log tells what has been appended to the trace. -/
theorem events_of_trace (h : e'.trace = e.trace ++ more.map (⟨e.now, ·⟩)) :
    e'.events = e.events ++ more := by
  rw [Engine.events, Engine.events, h, List.map_append, List.map_map]
  exact congrArg _ (List.map_id more)

theorem Notes.events (h : Notes e e' more) : e'.events = e.events ++ more :=
  events_of_trace h.trace

/-- What concerns a task is found again in its own part of the trace. -/
theorem Notes.entriesOf (h : Notes e e' more) (hmore : ∀ event ∈ more, event.task? = some task) :
    e'.entriesOf task = e.entriesOf task ++ more.map (⟨e.now, ·⟩) := by
  rw [Engine.entriesOf, Engine.entriesOf, h.trace, List.filter_append]
  refine congrArg _ (List.filter_eq_self.2 (List.forall_mem_map.2 fun event hevent => ?_))
  simpa using hmore event hevent

theorem Notes.eventsOf (h : Notes e e' more) (hmore : ∀ event ∈ more, event.task? = some task) :
    e'.eventsOf task = e.eventsOf task ++ more := by
  rw [Engine.eventsOf, Engine.eventsOf, h.events, List.filter_append]
  refine congrArg _ (List.filter_eq_self.2 fun event hevent => ?_)
  simpa using hmore event hevent

/-- What concerns others adds nothing to what concerns a task. -/
theorem Notes.eventsOf_eq (h : Notes e e' more) (hmore : ∀ event ∈ more, event.task? ≠ some task) :
    e'.eventsOf task = e.eventsOf task := by
  have hnone : more.filter (fun event => event.task? = some task) = [] :=
    List.filter_eq_nil_iff.2 fun event hevent => by simpa using hmore event hevent
  rw [Engine.eventsOf, Engine.eventsOf, h.events, List.filter_append, hnone, List.append_nil]

/-- What concerns nobody adds nothing to what concerns a task. -/
theorem Notes.eventsOf_eq_of_none (h : Notes e e' more)
    (hmore : ∀ event ∈ more, event.task? = none) : e'.eventsOf task = e.eventsOf task :=
  h.eventsOf_eq fun event hevent heq => Option.some_ne_none _ (heq.symm.trans (hmore event hevent))

theorem eventsOf_eq_map (e : Engine) (task : Task) :
    e.eventsOf task = (e.entriesOf task).map (·.event) := by
  rw [Engine.eventsOf, Engine.entriesOf, Engine.events, List.filter_map]
  rfl

/-- What does not concern a task adds nothing to its part of the trace. -/
theorem entriesOf_eq_of_trace {later : List Entry} (h : e'.trace = e.trace ++ later)
    (hlater : ∀ entry ∈ later, entry.event.task? ≠ some task) :
    e'.entriesOf task = e.entriesOf task := by
  have hnone : later.filter (fun entry => entry.event.task? = some task) = [] :=
    List.filter_eq_nil_iff.2 fun entry hentry => by simpa using hlater entry hentry
  rw [entriesOf, entriesOf, h, List.filter_append, hnone, List.append_nil]

end Notes

/-! ### What the elements of a step note -/

section Elements

variable {e e' : Engine}

theorem notes_note (e : Engine) (event : Event) : Notes e (e.note event) [event] :=
  ⟨rfl, rfl, rfl⟩

theorem notes_noteAll (e : Engine) (more : List Event) : Notes e (e.noteAll more) more :=
  ⟨rfl, rfl, rfl⟩

theorem notes_setWorker (e : Engine) (w : Nat) (phase : Worker.Phase) :
    Notes e (e.setWorker w phase) [] := .of_trace rfl rfl rfl

theorem notes_resetSession (e : Engine) (epoch : Nat) : Notes e (e.resetSession epoch) [] := by
  unfold resetSession
  split <;> exact .of_trace rfl rfl rfl

theorem notes_greeted (e : Engine) (w serial : Nat) (record : TopicStream.Event.Record)
    (clientId : String) :
    Notes e (e.greeted w serial record clientId) [.read w serial record] := ⟨rfl, rfl, rfl⟩

/-- Whatever a worker notes, the phase that it is put into afterwards adds nothing. -/
theorem Notes.setWorker {more : List Event} (h : Notes e e' more) (w : Nat) (phase : Worker.Phase) :
    Notes e (e'.setWorker w phase) more := ⟨h.trace, h.now, h.settings⟩

theorem notes_beginAttempt (e : Engine) (w epoch : Nat) :
    Notes e (e.beginAttempt w epoch) [.requested w e.streamHeaders] := by
  unfold beginAttempt setConnection
  split <;> exact ⟨rfl, rfl, rfl⟩

theorem notes_beginReading (e : Engine) (w epoch : Nat) :
    Notes e (e.beginReading w epoch) [.opened w e.streams] := by
  unfold beginReading setConnection
  split <;> exact ⟨rfl, rfl, rfl⟩

theorem notes_endAttempt (e : Engine) (w epoch : Nat) :
    Notes e (e.endAttempt w epoch)
      (e.onDisconnect.map fun o => .lost w o e.registry.activeTopics) := by
  simp only [endAttempt, notifyLost_eq]
  unfold resetSession setConnection
  split <;> exact ⟨rfl, rfl, rfl⟩

theorem notes_finishWorker (e : Engine) (w epoch : Nat) : Notes e (e.finishWorker w epoch) [] :=
  (notes_resetSession e epoch).setWorker w .finished

theorem notes_notifyConnected (e : Engine) (w : Nat) (clientId : String) :
    Notes e (e.notifyConnected w clientId) (e.onConnect.map fun o => .connected w o clientId) :=
  notifyConnected_eq e w clientId ▸ notes_noteAll e _

theorem notes_dispatch (e : Engine) (w : Nat) (record : TopicStream.Event.Record) :
    Notes e (e.dispatch w record) ((e.registry.entries record.event).map fun (id, listener) =>
      .delivered w id listener (record.payload.getD .null)) :=
  dispatch_eq e w record ▸ notes_noteAll e _

theorem notes_of_takeWorker {call : Option Nat} {w : Nat}
    (h : e.takeWorker call = some (w, e')) : Notes e e' [.retired w call] := by
  unfold takeWorker at h
  split at h
  · cases h
  · cases h
    exact ⟨rfl, rfl, rfl⟩

/-- A worker that is started has done nothing yet. -/
theorem notes_ensureWorker (e : Engine) :
    ∃ more, Notes e e.ensureWorker more ∧ ∀ event ∈ more, event.task? = none := by
  unfold ensureWorker
  split
  · exact ⟨[], .refl e, nofun⟩
  · exact ⟨[.started e.workers.length], ⟨rfl, rfl, rfl⟩, by simp [Event.task?]⟩

theorem notes_giveAnswer (e : Engine) (task : Task) (answer : Answer) :
    Notes e (e.giveAnswer task answer) [.answered task answer] := by
  cases task <;> exact ⟨rfl, rfl, rfl⟩

end Elements

/-! ### Calls that go on -/

/-- A call notes what it does and goes on to a phase. -/
structure Proceeds (e e' : Engine) (c : Nat) (phase : Call.Phase) (more : List Event) : Prop
    extends Notes e e' more where
  /-- The call is in the phase, and all others are where they were. -/
  goes : Goes e e' c phase

/-- A call ends with an outcome, or gives up the worker in the slot and will end with that outcome
after it. -/
inductive Closes (e e' : Engine) (c : Nat) (outcome : Outcome) : Prop
  /-- It ends. -/
  | ends (proceeds : Proceeds e e' c (.ended outcome) [.returned c outcome])
  /-- It waits for the end of the worker. -/
  | joins {w : Nat} (occupied : e.slot = some w) (vacated : e'.slot = none)
      (proceeds : Proceeds e e' c (.joining w outcome) [.retired w (some c)])

section Calls

variable {e e' : Engine} {c : Nat} {call : Call}

theorem proceeds_endCall (e : Engine) (c : Nat) (outcome : Outcome) :
    Proceeds e (e.endCall c outcome) c (.ended outcome) [.returned c outcome] :=
  ⟨⟨rfl, rfl, rfl⟩, rfl⟩

theorem proceeds_concludeDisconnect (e : Engine) (c : Nat) (outcome : Outcome) :
    Proceeds e (e.concludeDisconnect c outcome) c (.ended outcome) [.returned c outcome] := by
  unfold concludeDisconnect
  split <;> exact ⟨⟨rfl, rfl, rfl⟩, rfl⟩

theorem closes_beginDisconnect (e : Engine) (c : Nat) (outcome : Outcome) :
    Closes e (e.beginDisconnect c outcome) c outcome := by
  unfold beginDisconnect
  split
  · rename_i w e' htake
    have hnotes := notes_of_takeWorker htake
    obtain ⟨hslot, hcore⟩ := core_of_takeWorker e htake
    have hvacated : e'.slot = none := congrArg Core.slot hcore
    refine .joins hslot hvacated ⟨⟨hnotes.trace, hnotes.now, hnotes.settings⟩, ?_⟩
    rw [Goes, setCall, setCall, calls_of_takeWorker e htake]
  · exact .ends (proceeds_concludeDisconnect e c outcome)

theorem closes_concludeRemoval (e : Engine) (c : Nat) (outcome : Outcome) :
    Closes e (e.concludeRemoval c outcome) c outcome := by
  unfold concludeRemoval
  split
  · exact closes_beginDisconnect e c outcome
  · exact .ends (proceeds_endCall e c outcome)

/-- A call that undoes its registration tears the connection down or ends, or announces what is
left. -/
theorem closes_or_proceeds_rollBack (e : Engine) (c : Nat) (key : String) (id : ListenerId)
    (error : ClientError) :
    Closes e (e.rollBack c key id error) c (.failed error) ∨
      ∃ clientId topics, Proceeds e (e.rollBack c key id error) c (.restoring error e.slot none)
        [.announced (.call c) clientId topics] := by
  -- the registry is not part of what is noted
  have hclose {e'' : Engine}
      (h : Closes { e with registry := (e.registry.removeListener key id).2 } e'' c
        (.failed error)) : Closes e e'' c (.failed error) := by
    cases h with
    | ends proceeds =>
      exact .ends ⟨⟨proceeds.trace, proceeds.now, proceeds.settings⟩, proceeds.goes⟩
    | joins occupied vacated proceeds =>
      exact .joins occupied vacated
        ⟨⟨proceeds.trace, proceeds.now, proceeds.settings⟩, proceeds.goes⟩
  simp only [rollBack]
  split
  · exact .inl (hclose (closes_beginDisconnect _ c (.failed error)))
  · split
    · rename_i e' hannounce
      obtain ⟨⟨clientId, topics⟩, -, rfl⟩ := Option.map_eq_some_iff.1 hannounce
      exact .inr ⟨clientId, topics, ⟨⟨rfl, rfl, rfl⟩, rfl⟩⟩
    · exact .inl (hclose (.ends (proceeds_endCall _ c (.failed error))))

/-- A call announces what is due and waits for the answer, or goes on as it does without. -/
theorem proceeds_announceFor (e : Engine) (c : Nat) (otherwise : Engine → Engine) :
    (∃ clientId topics, e.announcement? = some (clientId, topics) ∧
      Proceeds e (e.announceFor c otherwise) c (.announcing e.slot none)
        [.announced (.call c) clientId topics]) ∨
      (e.announcement? = none ∧ e.announceFor c otherwise = otherwise e) := by
  unfold announceFor
  split
  · rename_i e' hannounce
    obtain ⟨⟨clientId, topics⟩, hdue, rfl⟩ := Option.map_eq_some_iff.1 hannounce
    exact .inl ⟨clientId, topics, hdue, ⟨⟨rfl, rfl, rfl⟩, rfl⟩⟩
  · rename_i hannounce
    exact .inr ⟨Option.map_eq_none_iff.1 hannounce, rfl⟩

/-- What a call notes that goes on concerns the call. -/
theorem Closes.exists_proceeds {outcome : Outcome} (h : Closes e e' c outcome) :
    ∃ phase more, Proceeds e e' c phase more ∧ ∀ event ∈ more, event.task? = some (.call c) := by
  cases h with
  | ends proceeds => exact ⟨_, _, proceeds, by simp [Event.task?]⟩
  | joins occupied vacated proceeds => exact ⟨_, _, proceeds, by simp [Event.task?]⟩

theorem exists_proceeds_of_callMove (h : CallMove e c call e') :
    ∃ phase more, Proceeds e e' c phase more ∧ ∀ event ∈ more, event.task? = some (.call c) := by
  have hends (outcome : Outcome) :
      ∃ phase more, Proceeds e (e.endCall c outcome) c phase more ∧
        ∀ event ∈ more, event.task? = some (.call c) :=
    (Closes.ends (proceeds_endCall e c outcome)).exists_proceeds
  cases h with
  | @announce deadline key id phase ready subscriber =>
    rcases proceeds_announceFor e c fun e => e.endCall c (.subscribed key id) with
      ⟨clientId, topics, -, hproceeds⟩ | ⟨-, heq⟩
    · exact ⟨_, _, hproceeds, by simp [Event.task?]⟩
    · rw [heq]
      exact hends _
  | @undo key id error subscriber cause =>
    rcases closes_or_proceeds_rollBack e c key id error with
      hcloses | ⟨clientId, topics, hproceeds⟩
    · exact hcloses.exists_proceeds
    · exact ⟨_, _, hproceeds, by simp [Event.task?]⟩
  | conclude phase remover cause => exact (closes_concludeRemoval e c _).exists_proceeds
  | join phase ended =>
    exact (Closes.ends (proceeds_concludeDisconnect e c _)).exists_proceeds
  | greeted | timeOut | subscribed | restored | crash => exact hends _

end Calls

/-! ### Workers that go on -/

/-- The headers with which a worker asks for a stream, if this is what happens. -/
def Event.headers? : Event → Option (List (String × String))
  | .requested _ headers => some headers
  | _ => none

/-- What a worker notes that goes on concerns the worker. It asks for one stream at most, with the
headers that are due at that moment. -/
theorem exists_notes_of_workerMove {e e' : Engine} {w : Nat} {k : Worker}
    (h : WorkerMove e w k e') :
    ∃ more, Notes e e' more ∧ (∀ event ∈ more, event.task? = some (.worker w)) ∧
      (more.filterMap Event.headers? = [] ∨
        more.filterMap Event.headers? = [e.streamHeaders]) := by
  -- calls of listeners and observers ask for nothing
  have hquiet {α : Type} (l : List α) {f : α → Event} (hf : ∀ a, (f a).headers? = none) :
      (l.map f).filterMap Event.headers? = [] := by
    rw [List.filterMap_map]
    exact List.filterMap_eq_nil_iff.2 fun a _ => hf a
  cases h with
  | finish cancelled => exact ⟨_, notes_finishWorker e w k.epoch, nofun, .inl rfl⟩
  | attempt live phase =>
    exact ⟨_, notes_beginAttempt e w k.epoch, by simp [Event.task?], .inr rfl⟩
  | read live phase =>
    exact ⟨_, notes_beginReading e w k.epoch, by simp [Event.task?], .inl rfl⟩
  | lose live phase =>
    exact ⟨_, notes_endAttempt e w k.epoch, List.forall_mem_map.2 fun _ _ => rfl,
      .inl (hquiet _ fun _ => rfl)⟩
  | crash live phase => exact ⟨_, notes_setWorker e w .crashed, nofun, .inl rfl⟩
  | take live phase next => exact ⟨_, notes_setWorker e w _, nofun, .inl rfl⟩
  | @deliver live body phase record after next plain =>
    refine ⟨_, ((notes_note e (.read w body.serial record)).trans
      (notes_dispatch _ w record)).setWorker w _, ?_, .inl (hquiet _ fun _ => rfl)⟩
    exact List.forall_mem_cons.2 ⟨rfl, List.forall_mem_map.2 fun _ _ => rfl⟩
  | @passOver live body phase record after next clientId greeting late =>
    exact ⟨_, (notes_note e (.read w body.serial record)).setWorker w _, by simp [Event.task?],
      .inl rfl⟩
  | @announce live body phase record after next clientId greeting current due =>
    refine ⟨_, ((notes_greeted e w body.serial record clientId).trans
      (notes_note _ (.announced (.worker w) clientId e.registry.activeTopics))).setWorker w _,
      ?_, .inl rfl⟩
    simp [Event.task?]
  | @establish live body phase record after next clientId greeting current nothing =>
    refine ⟨_, ((notes_greeted e w body.serial record clientId).trans
      (notes_notifyConnected _ w clientId)).setWorker w _, ?_, .inl (hquiet _ fun _ => rfl)⟩
    exact List.forall_mem_cons.2 ⟨rfl, List.forall_mem_map.2 fun _ _ => rfl⟩
  | @greet live clientId body answer phase survives =>
    exact ⟨_, (notes_notifyConnected e w clientId).setWorker w _,
      List.forall_mem_map.2 fun _ _ => rfl, .inl (hquiet _ fun _ => rfl)⟩

/-! ### The beginning of a call -/

/-- An action begins a call with a request. -/
inductive Begins (e : Engine) : Action → Request → Engine → Prop
  /-- Starting it through the client. -/
  | start (request : Request) : Begins e (.start request) request (e.beginCall request true)
  /-- Closing a handle. -/
  | closeHandle {c : Nat} {key : String} {id : ListenerId}
      (handle : e.calls[c]?.bind Call.handle? = some (key, id)) :
      Begins e (.closeHandle c) (.remove (.listener key id))
        ((e.useHandle c).beginCall (.remove (.listener key id)) false)

section Begin

variable {e e' : Engine}

theorem notes_withRegistration (e : Engine) (topic : String) (options : Options)
    (listener : Listener) :
    Notes e (e.withRegistration topic options listener)
      [.registered e.calls.length (options.topicKey topic) ⟨e.registry.issued + 1⟩] :=
  ⟨rfl, rfl, rfl⟩

/-- A removal announces what is left, or there is nothing to announce. -/
theorem proceeds_beginCall_remove (e : Engine) (what : Removal) (borrows : Bool) :
    (∃ clientId topics, Proceeds (e.withRemoval what borrows) (e.beginCall (.remove what) borrows)
      e.calls.length (.announcing e.slot none)
      [.announced (.call e.calls.length) clientId topics]) ∨
    e.beginCall (.remove what) borrows =
      (e.withRemoval what borrows).concludeRemoval e.calls.length .done := by
  rw [beginCall_remove_eq]
  rcases proceeds_announceFor (e.withRemoval what borrows) e.calls.length fun e₁ =>
      e₁.concludeRemoval e.calls.length .done with ⟨clientId, topics, -, hproceeds⟩ | ⟨-, heq⟩
  · exact .inl ⟨clientId, topics, hproceeds⟩
  · exact .inr heq

/-- What the beginning of a call notes concerns the call, or is the start of a worker. -/
theorem exists_notes_beginCall (e : Engine) (request : Request) (borrows : Bool) :
    ∃ more, Notes e (e.beginCall request borrows) more ∧
      ∀ event ∈ more, event.task? = none ∨ event.task? = some (.call e.calls.length) := by
  cases request with
  | subscribe topic options listener =>
    simp only [beginCall]
    split
    · exact ⟨[_], ⟨rfl, rfl, rfl⟩, by simp [Event.task?]⟩
    · obtain ⟨more, hmore, hnone⟩ :=
        notes_ensureWorker (e.withRegistration topic options listener)
      have hall := (notes_withRegistration e topic options listener).trans hmore
      refine ⟨_, ⟨hall.trace, hall.now, hall.settings⟩, List.forall_mem_cons.2 ⟨.inr rfl, ?_⟩⟩
      exact fun event hevent => .inl (hnone event hevent)
  | ensureConnected patience =>
    obtain ⟨more, hmore, hnone⟩ := notes_ensureWorker e
    exact ⟨more, ⟨hmore.trace, hmore.now, hmore.settings⟩,
      fun event hevent => .inl (hnone event hevent)⟩
  | disconnect =>
    obtain ⟨phase, more, hproceeds, htask⟩ := (closes_beginDisconnect
      (e.addCall .disconnect borrows none (.ended .done)) e.calls.length .done).exists_proceeds
    exact ⟨more, ⟨hproceeds.trace, hproceeds.now, hproceeds.settings⟩,
      fun event hevent => .inr (htask event hevent)⟩
  | remove what =>
    have hproceeds : ∃ phase more, Proceeds (e.withRemoval what borrows)
        (e.beginCall (.remove what) borrows) e.calls.length phase more ∧
        ∀ event ∈ more, event.task? = some (.call e.calls.length) := by
      rcases proceeds_beginCall_remove e what borrows with ⟨clientId, topics, h⟩ | heq
      · exact ⟨_, _, h, by simp [Event.task?]⟩
      · rw [heq]
        exact (closes_concludeRemoval _ e.calls.length .done).exists_proceeds
    obtain ⟨phase, more, hproceeds, htask⟩ := hproceeds
    exact ⟨more, ⟨hproceeds.trace, hproceeds.now, hproceeds.settings⟩,
      fun event hevent => .inr (htask event hevent)⟩

end Begin

/-! ### Steps -/

/-- A step notes things at its time that concern the task of the action, if they concern a task. It
leaves the settings as they are. -/
theorem notes_of_step {e e' : Engine} {action : Action} (h : e.step action = some e') :
    ∃ more : List Event, e'.trace = e.trace ++ more.map (⟨e.now, ·⟩) ∧ e'.settings = e.settings ∧
      (∀ event ∈ more, event.task? = none ∨ event.task? = action.task? e) ∧
      ((∀ time, action ≠ .tick time) → e'.now = e.now) := by
  -- the passing of time and what callers set are not noted
  have hnothing {e' : Engine} (htrace : e'.trace = e.trace) (hsettings : e'.settings = e.settings)
      (hnow : (∀ time, action ≠ .tick time) → e'.now = e.now) :
      ∃ more : List Event, e'.trace = e.trace ++ more.map (⟨e.now, ·⟩) ∧
        e'.settings = e.settings ∧
        (∀ event ∈ more, event.task? = none ∨ event.task? = action.task? e) ∧
        ((∀ time, action ≠ .tick time) → e'.now = e.now) :=
    ⟨[], htrace.trans (List.append_nil _).symm, hsettings, nofun, hnow⟩
  cases stepMove_of_step h with
  | start alive request =>
    obtain ⟨more, hnotes, htask⟩ := exists_notes_beginCall e request true
    exact ⟨more, hnotes.trace, hnotes.settings, htask, fun _ => hnotes.now⟩
  | @closeHandle c key id handle =>
    obtain ⟨more, hnotes, htask⟩ :=
      exists_notes_beginCall (e.useHandle c) (.remove (.listener key id)) false
    have hlength : (e.useHandle c).calls.length = e.calls.length := List.length_modify ..
    rw [hlength] at htask
    exact ⟨more, hnotes.trace, hnotes.settings, htask, fun _ => hnotes.now⟩
  | worker present running move =>
    obtain ⟨more, hnotes, htask, -⟩ := exists_notes_of_workerMove move
    exact ⟨more, hnotes.trace, hnotes.settings, fun event hevent => .inr (htask event hevent),
      fun _ => hnotes.now⟩
  | call present move =>
    obtain ⟨phase, more, hnotes, htask⟩ := exists_proceeds_of_callMove move
    exact ⟨more, hnotes.trace, hnotes.settings, fun event hevent => .inr (htask event hevent),
      fun _ => hnotes.now⟩
  | @answer task awaited answer =>
    have hnotes := notes_giveAnswer e task answer
    exact ⟨_, hnotes.trace, hnotes.settings, by simp [Event.task?, Action.task?],
      fun _ => hnotes.now⟩
  | arrive isOpen item => exact ⟨[_], rfl, rfl, by simp [Event.task?], fun _ => rfl⟩
  | finish isOpen => exact ⟨[_], rfl, rfl, by simp [Event.task?], fun _ => rfl⟩
  | tick idle later due => exact hnothing rfl rfl fun hnot => absurd rfl (hnot _)
  | dropWorker alive free taken =>
    have hnotes := notes_of_takeWorker taken
    exact ⟨_, hnotes.trace, hnotes.settings, by simp [Event.task?], fun _ => hnotes.now⟩
  | dropClient | setCredential | observeConnect | observeDisconnect =>
    exact hnothing rfl rfl fun _ => rfl

/-- The engine keeps the settings that it was told. -/
theorem settings_of_reachable {settings : Settings} {credential : Option String} {e : Engine}
    (he : Reachable settings credential e) : e.settings = settings := by
  induction he with
  | initial => rfl
  | step action before happens ih =>
    obtain ⟨more, -, hsettings, -⟩ := notes_of_step happens
    exact hsettings.trans ih

/-- What concerns a task changes only by actions on the task. -/
theorem entriesOf_step {e e' : Engine} {action : Action} {task : Task}
    (h : e.step action = some e') (htask : action.task? e ≠ some task) :
    e'.entriesOf task = e.entriesOf task := by
  obtain ⟨more, htrace, -, hmore, -⟩ := notes_of_step h
  refine entriesOf_eq_of_trace htrace (List.forall_mem_map.2 fun event hevent heq => ?_)
  rcases hmore event hevent with hnone | haction
  · cases hnone.symm.trans heq
  · exact htask (haction.symm.trans heq)

theorem eventsOf_step {e e' : Engine} {action : Action} {task : Task}
    (h : e.step action = some e') (htask : action.task? e ≠ some task) :
    e'.eventsOf task = e.eventsOf task := by
  rw [eventsOf_eq_map, eventsOf_eq_map, entriesOf_step h htask]

end TopicStream.Engine
