import Mathlib.Data.List.Basic
import TopicStream.Proofs.Engine.Core

/-!
# What the log tells

Which streams workers have opened, what has arrived of them, and which records and greetings have
been read from them, told from the log of what has happened. None of it is the business of callers
alone, so the log of the core tells the same (`filterMap_core`).
-/

namespace TopicStream.Engine

/-- All that has happened, in order. -/
def events (e : Engine) : List Event := e.trace.map (·.event)

/-- The stream that a worker begins to read, if this is what happens. -/
def Event.openedBy? (w : Nat) : Event → Option Nat
  | .opened w' serial => if w' = w then some serial else none
  | _ => none

/-- The record that a worker has read from a stream, if this is what happens. -/
def Event.readBy? (w serial : Nat) : Event → Option TopicStream.Event.Record
  | .read w' serial' record => if w' = w ∧ serial' = serial then some record else none
  | _ => none

/-- The stream that a worker has opened last. -/
def lastStream? (w : Nat) (log : List Event) : Option Nat :=
  (log.filterMap (Event.openedBy? w)).getLast?

/-- The records that a worker has read from a stream, in order. -/
def recordsRead (w serial : Nat) (log : List Event) : List TopicStream.Event.Record :=
  log.filterMap (Event.readBy? w serial)

/-- The client id of the last greeting that a worker has read from a stream. -/
def lastGreeting? (w serial : Nat) (log : List Event) : Option String :=
  ((recordsRead w serial log).filterMap (·.handshake?)).getLast?

/-- An item of a stream that arrives, if this is what happens. -/
def Event.arrivedAt? (serial : Nat) : Event → Option (Except ClientError Bytes)
  | .arrived serial' item => if serial' = serial then some item else none
  | _ => none

/-- The stream that an event is part of, if any. -/
def Event.stream? : Event → Option Nat
  | .opened _ serial | .arrived serial _ | .ended serial | .read _ serial _ => some serial
  | _ => none

/-- What has arrived of the body of a stream, in order. -/
def arrivals (serial : Nat) (log : List Event) : List (Except ClientError Bytes) :=
  log.filterMap (Event.arrivedAt? serial)

/-! ### What is noted -/

section Notes

variable (e : Engine)

/-- What is noted has happened last. -/
@[simp]
theorem events_note (event : Event) : (e.note event).events = e.events ++ [event] := by
  simp [events, note]

@[simp]
theorem events_noteAll (more : List Event) : (e.noteAll more).events = e.events ++ more := by
  simp [events, noteAll, Function.comp_def]

@[simp]
theorem events_setWorker (w : Nat) (phase : Worker.Phase) :
    (e.setWorker w phase).events = e.events := rfl

@[simp]
theorem events_setConnection (connection : Connection) (epoch : Nat) :
    (e.setConnection connection epoch).events = e.events := by
  unfold setConnection
  split <;> rfl

@[simp]
theorem events_resetSession (epoch : Nat) : (e.resetSession epoch).events = e.events := by
  unfold resetSession
  split <;> rfl

@[simp]
theorem events_greeted (w serial : Nat) (record : TopicStream.Event.Record) (clientId : String) :
    (e.greeted w serial record clientId).events = e.events ++ [.read w serial record] :=
  events_note e (.read w serial record)

end Notes

section Log

variable {w serial : Nat} {log more : List Event}

/-! ### The log in two parts -/

/-- The last stream stays the last one as long as the worker opens no other. -/
theorem lastStream?_append (h : ∀ event ∈ more, event.openedBy? w = none) :
    lastStream? w (log ++ more) = lastStream? w log := by
  rw [lastStream?, List.filterMap_append, List.filterMap_eq_nil_iff.2 h, List.append_nil,
    lastStream?]

theorem lastStream?_opened : lastStream? w (log ++ [.opened w serial]) = some serial := by
  simp [lastStream?, Event.openedBy?]

theorem recordsRead_append :
    recordsRead w serial (log ++ more) = recordsRead w serial log ++ recordsRead w serial more :=
  List.filterMap_append

theorem recordsRead_eq_nil (h : ∀ event ∈ more, event.readBy? w serial = none) :
    recordsRead w serial more = [] :=
  List.filterMap_eq_nil_iff.2 h

/-- The last greeting stays the last one as long as no other is read. -/
theorem lastGreeting?_append
    (h : ∀ record ∈ recordsRead w serial more, record.handshake? = none) :
    lastGreeting? w serial (log ++ more) = lastGreeting? w serial log := by
  rw [lastGreeting?, recordsRead_append, List.filterMap_append, List.filterMap_eq_nil_iff.2 h,
    List.append_nil, lastGreeting?]

theorem recordsRead_read {record : TopicStream.Event.Record}
    (h : ∀ event ∈ more, event.readBy? w serial = none) :
    recordsRead w serial (log ++ .read w serial record :: more) =
      recordsRead w serial log ++ [record] := by
  have hread : recordsRead w serial (.read w serial record :: more) = [record] := by
    rw [recordsRead, List.filterMap_cons_some (b := record) (by simp [Event.readBy?])]
    exact congrArg _ (recordsRead_eq_nil h)
  rw [recordsRead_append, hread]

/-- A greeting that has just been read is the last one. -/
theorem lastGreeting?_read {record : TopicStream.Event.Record} {clientId : String}
    (hgreeting : record.handshake? = some clientId)
    (h : ∀ event ∈ more, event.readBy? w serial = none) :
    lastGreeting? w serial (log ++ .read w serial record :: more) = some clientId := by
  rw [lastGreeting?, recordsRead_read h]
  simp [hgreeting]

theorem arrivals_append :
    arrivals serial (log ++ more) = arrivals serial log ++ arrivals serial more :=
  List.filterMap_append

/-- Nothing has arrived of a stream that has no part in what has happened. -/
theorem arrivals_eq_nil (h : ∀ event ∈ more, event.stream? ≠ some serial) :
    arrivals serial more = [] := by
  refine List.filterMap_eq_nil_iff.2 fun event hevent => ?_
  have hstream := h event hevent
  -- only arrivals count, and theirs is another stream
  cases event with
  | arrived serial' item =>
    have hne : serial' ≠ serial := fun heq => hstream (by rw [heq]; rfl)
    exact if_neg hne
  | _ => rfl

theorem readBy?_of_stream {event : Event} (h : event.stream? ≠ some serial) :
    event.readBy? w serial = none := by
  cases event with
  | read w' serial' record =>
    have hne : serial' ≠ serial := fun heq => h (by rw [heq]; rfl)
    exact if_neg fun hboth => hne hboth.2
  | _ => rfl

theorem recordsRead_eq_nil_of_stream (h : ∀ event ∈ more, event.stream? ≠ some serial) :
    recordsRead w serial more = [] :=
  recordsRead_eq_nil fun event hevent => readBy?_of_stream (h event hevent)

/-- What happens without a stream adds nothing to its history. -/
theorem arrivals_append_of_stream (h : ∀ event ∈ more, event.stream? ≠ some serial) :
    arrivals serial (log ++ more) = arrivals serial log := by
  rw [arrivals_append, arrivals_eq_nil h, List.append_nil]

theorem recordsRead_append_of_stream (h : ∀ event ∈ more, event.stream? ≠ some serial) :
    recordsRead w serial (log ++ more) = recordsRead w serial log := by
  rw [recordsRead_append, recordsRead_eq_nil_of_stream h, List.append_nil]

/-! ### The log of the core -/

/-- What is the business of callers alone does not concern the streams of workers. -/
theorem filterMap_core {α : Type} (e : Engine) {f : Event → Option α}
    (h : ∀ event : Event, event.isCallers = true → f event = none) :
    e.core.log.filterMap f = e.events.filterMap f := by
  rw [core, List.filterMap_filter]
  -- what the core drops would have been dropped by `f`
  apply List.filterMap_congr
  intro event _
  cases hcallers : event.isCallers with
  | true => simp [h event hcallers]
  | false => simp

theorem lastStream?_core (e : Engine) : lastStream? w e.core.log = lastStream? w e.events := by
  rw [lastStream?, filterMap_core, lastStream?]
  intro event h
  cases event <;> first | rfl | cases h

theorem recordsRead_core (e : Engine) :
    recordsRead w serial e.core.log = recordsRead w serial e.events := by
  rw [recordsRead, filterMap_core, recordsRead]
  intro event h
  cases event <;> first | rfl | cases h

theorem arrivals_core (e : Engine) : arrivals serial e.core.log = arrivals serial e.events := by
  rw [arrivals, filterMap_core, arrivals]
  intro event h
  cases event <;> first | rfl | cases h

/-- What is not the business of callers alone has happened if the log of the core says so. -/
theorem mem_core_log {e : Engine} {event : Event} (h : event.isCallers = false) :
    event ∈ e.core.log ↔ event ∈ e.events := by
  change event ∈ e.events.filter _ ↔ _
  rw [List.mem_filter, h]
  simp

end Log

end TopicStream.Engine
