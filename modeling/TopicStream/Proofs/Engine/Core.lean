import TopicStream.Proofs.Engine.Moves

/-!
# What steps do to the workers

Session, connection, slot and workers are written from many places. This module says once what a
step can do to them, so that invariants need not look into the functions that a step is made of.

The *core* of an engine is the part that concerns its workers: session, connection, epoch, slot, the
workers themselves, and the log of what workers and streams have done. A step

* of a caller leaves the core as it is, starts a worker, gives one up, or finds the slot empty and
  declares the connection idle (`CallerMove`);
* from outside hands an answer to a worker or an item to a stream (`Supply`);
* of a worker is one of the moves that a worker can make (`WorkerMove`).

The main result is `step_core`.
-/

namespace TopicStream.Engine

open Subscription

/-- Whether something that has happened is the business of callers alone. -/
def Event.isCallers : Event → Bool
  | .registered .. | .started _ | .retired .. | .returned .. => true
  | .announced (.call _) .. | .answered (.call _) _ => true
  | _ => false

/-- The part of an engine that concerns its workers. -/
structure Core where
  /-- The session. -/
  session : Session
  /-- The flag that waiting calls look at. -/
  ready : Bool
  /-- The state of the connection. -/
  connection : Connection
  /-- How often a worker has been started or given up. -/
  epoch : Nat
  /-- The current worker. -/
  slot : Option Nat
  /-- All workers ever started. -/
  workers : List Worker
  /-- How many streams have been opened. -/
  streams : Nat
  /-- What has happened so far and is not the business of callers alone. -/
  log : List Event

/-- The core of an engine. -/
def core (e : Engine) : Core where
  session := e.session
  ready := e.ready
  connection := e.connection
  epoch := e.epoch
  slot := e.slot
  workers := e.workers
  streams := e.streams
  log := (e.trace.map (·.event)).filter fun event => !event.isCallers

namespace Core

/-- Puts a new worker into the slot, in an epoch of its own. -/
def start (c : Core) : Core where
  session := .none
  ready := false
  connection := c.connection
  epoch := c.epoch + 1
  slot := some c.workers.length
  workers := c.workers ++ [⟨c.epoch + 1, false, .starting⟩]
  streams := c.streams
  log := c.log

/-- Empties the slot and tells its worker to end. -/
def retire (c : Core) (w : Nat) : Core where
  session := .none
  ready := false
  connection := c.connection
  epoch := c.epoch + 1
  slot := none
  workers := c.workers.modify w fun k => { k with cancelled := true }
  streams := c.streams
  log := c.log

/-- The worker in the slot, if any, has ended. -/
def SlotIsOver (c : Core) : Prop :=
  ∀ w, c.slot = some w → ∀ k, c.workers[w]? = some k → k.phase.isOver = true

/-- What a step of a caller can do to the core. -/
inductive CallerMove (c : Core) : Core → Prop
  /-- Nothing. -/
  | keep : CallerMove c c
  /-- Starting a worker, as none is running. -/
  | start (ended : c.SlotIsOver) : CallerMove c c.start
  /-- Giving up the worker in the slot. -/
  | retire {w : Nat} (occupied : c.slot = some w) : CallerMove c (c.retire w)
  /-- Declaring the connection idle, as there is no worker. -/
  | idle (vacant : c.slot = none) : CallerMove c { c with connection := .idle }

/-- Callers note nothing in the core. -/
theorem CallerMove.log {c c' : Core} (h : CallerMove c c') : c'.log = c.log := by
  cases h <;> rfl

/-- What a step from outside can do to the core. -/
inductive Supply (c : Core) : Core → Prop
  /-- An answer for a worker. -/
  | answer (w : Nat) (answer : Answer) :
      Supply c { c with
        workers := c.workers.modify w fun k => { k with phase := k.phase.withAnswer answer }
        log := c.log ++ [.answered (.worker w) answer] }
  /-- An item for a stream that is read. -/
  | arrive (serial : Nat) (item : Except ClientError Bytes)
      (isRead : ∃ k ∈ c.workers, k.reads serial = true) :
      Supply c { c with
        workers := c.workers.map fun k =>
          if k.reads serial then { k with phase := k.phase.mapBody (·.arrive item) } else k
        log := c.log ++ [.arrived serial item] }
  /-- The end of a stream that is read. -/
  | finish (serial : Nat) (isRead : ∃ k ∈ c.workers, k.reads serial = true) :
      Supply c { c with
        workers := c.workers.map fun k =>
          if k.reads serial then { k with phase := k.phase.mapBody Body.finish } else k
        log := c.log ++ [.ended serial] }

end Core

open TopicStream.Engine.Core

/-! ### The core under the elements of a step -/

section Elements

variable (e : Engine)

/-- What is the business of callers alone is not logged in the core. -/
theorem core_note_of_isCallers {event : Event} (h : event.isCallers = true) :
    (e.note event).core = e.core := by
  simp [core, note, h]

theorem core_note {event : Event} (h : event.isCallers = false) :
    (e.note event).core = { e.core with log := e.core.log ++ [event] } := by
  simp [core, note, h]

theorem core_noteAll {events : List Event} (h : ∀ event ∈ events, event.isCallers = false) :
    (e.noteAll events).core = { e.core with log := e.core.log ++ events } := by
  have hkept : events.filter (fun event => !event.isCallers) = events :=
    List.filter_eq_self.2 fun event hevent => by rw [h event hevent]; rfl
  simp [core, noteAll, Function.comp_def, hkept]

@[simp]
theorem core_setCall (c : Nat) (phase : Call.Phase) : (e.setCall c phase).core = e.core := rfl

@[simp]
theorem core_endCall (c : Nat) (outcome : Outcome) : (e.endCall c outcome).core = e.core := by
  rw [endCall, core_note_of_isCallers _ rfl, core_setCall]

@[simp]
theorem core_addCall (request : Request) (borrows : Bool)
    (registered : Option (String × ListenerId)) (phase : Call.Phase) :
    (e.addCall request borrows registered phase).core = e.core := rfl

theorem core_of_announce? {e' : Engine} {c : Nat} (h : e.announce? (.call c) = some e') :
    e'.core = e.core := by
  rw [announce?, Option.map_eq_some_iff] at h
  obtain ⟨⟨clientId, topics⟩, -, rfl⟩ := h
  exact core_note_of_isCallers e rfl

theorem core_startWorker : e.startWorker.core = e.core.start := by
  rw [startWorker, core_note_of_isCallers _ rfl]
  rfl

theorem core_of_takeWorker {call : Option Nat} {w : Nat} {e' : Engine}
    (h : e.takeWorker call = some (w, e')) : e.core.slot = some w ∧ e'.core = e.core.retire w := by
  rw [takeWorker] at h
  split at h
  · cases h
  · rename_i w' hslot
    simp only [Option.some.injEq, Prod.mk.injEq] at h
    obtain ⟨rfl, rfl⟩ := h
    exact ⟨hslot, core_note_of_isCallers _ rfl⟩

/-- No worker is running if the one in the slot has ended. -/
theorem slotIsOver_of_hasWorker (h : e.hasWorker = false) : e.core.SlotIsOver := by
  intro w hslot k hk
  have hslot' : e.slot = some w := hslot
  have hk' : e.workers[w]? = some k := hk
  simpa [hasWorker, hslot', isOver, hk'] using h

end Elements

/-! ### The core under steps of callers -/

section Callers

variable (e : Engine)

/-- Seeing to it that a worker is running starts one at most. -/
theorem callerMove_ensureWorker : CallerMove e.core e.ensureWorker.core := by
  rw [ensureWorker]
  split
  · exact .keep
  · rename_i hover
    rw [core_startWorker]
    exact .start (slotIsOver_of_hasWorker e (by simpa using hover))

/-- A call that has waited for the end of a worker declares the connection idle at most. -/
theorem callerMove_concludeDisconnect (c : Nat) (outcome : Outcome) :
    CallerMove e.core (e.concludeDisconnect c outcome).core := by
  rw [concludeDisconnect, core_endCall]
  split
  · rename_i hslot
    exact .idle (Option.isNone_iff_eq_none.1 hslot)
  · exact .keep

/-- Tearing the connection down gives up the worker, or declares the connection idle. -/
theorem callerMove_beginDisconnect (c : Nat) (outcome : Outcome) :
    CallerMove e.core (e.beginDisconnect c outcome).core := by
  rw [beginDisconnect]
  split
  · rename_i w e' htake
    obtain ⟨hslot, hcore⟩ := core_of_takeWorker e htake
    rw [core_setCall, hcore]
    exact .retire hslot
  · exact callerMove_concludeDisconnect e c outcome

theorem callerMove_concludeRemoval (c : Nat) (outcome : Outcome) :
    CallerMove e.core (e.concludeRemoval c outcome).core := by
  rw [concludeRemoval]
  split
  · exact callerMove_beginDisconnect e c outcome
  · rw [core_endCall]
    exact .keep

theorem callerMove_rollBack (c : Nat) (key : String) (id : ListenerId) (error : ClientError) :
    CallerMove e.core (e.rollBack c key id error).core := by
  rw [rollBack]
  -- the registry is no part of the core
  change CallerMove { e with registry := (e.registry.removeListener key id).2 }.core _
  split
  · exact callerMove_beginDisconnect _ c (.failed error)
  · split
    · rename_i e' hannounce
      rw [core_setCall, core_of_announce? _ hannounce]
      exact .keep
    · rw [core_endCall]
      exact .keep

/-- An announcement concerns the workers only by what is done without it. -/
theorem callerMove_announceFor (c : Nat) {otherwise : Engine → Engine}
    (h : CallerMove e.core (otherwise e).core) :
    CallerMove e.core (e.announceFor c otherwise).core := by
  rw [announceFor]
  split
  · rename_i e' hannounce
    rw [core_setCall, core_of_announce? _ hannounce]
    exact .keep
  · exact h

theorem callerMove_of_callMove {e' : Engine} {c : Nat} {call : Call}
    (h : CallMove e c call e') : CallerMove e.core e'.core := by
  cases h with
  | announce phase ready subscriber =>
    exact callerMove_announceFor e c (by rw [core_endCall]; exact .keep)
  | undo subscriber cause => exact callerMove_rollBack e c _ _ _
  | conclude phase remover cause => exact callerMove_concludeRemoval e c _
  | join phase ended => exact callerMove_concludeDisconnect e c _
  | greeted | timeOut | subscribed | restored | crash =>
    rw [core_endCall]
    exact .keep

/-- Neither a registration nor its note is part of the core. -/
theorem core_withRegistration (topic : String) (options : Options) (listener : Listener) :
    (e.withRegistration topic options listener).core = e.core :=
  core_note_of_isCallers _ rfl

theorem callerMove_beginCall (request : Request) (borrows : Bool) :
    CallerMove e.core (e.beginCall request borrows).core := by
  cases request with
  | subscribe topic options listener =>
    simp only [beginCall]
    split
    · rw [core_note_of_isCallers _ rfl, core_addCall]
      exact .keep
    · rw [core_addCall, ← core_withRegistration e topic options listener]
      exact callerMove_ensureWorker (e.withRegistration topic options listener)
  | ensureConnected patience =>
    exact callerMove_ensureWorker e
  | disconnect =>
    exact callerMove_beginDisconnect (e.addCall .disconnect borrows none (.ended .done)) _ _
  | remove what =>
    exact callerMove_announceFor (e.withRemoval what borrows) e.calls.length
      (callerMove_concludeRemoval (e.withRemoval what borrows) _ .done)

end Callers

/-! ### The core under answers and items -/

section Outside

variable (e : Engine)

/-- An answer is handed to the worker that waits for it, or concerns a call alone. -/
theorem core_giveAnswer (task : Task) (answer : Answer) :
    (e.giveAnswer task answer).core = e.core ∨ Supply e.core (e.giveAnswer task answer).core := by
  cases task with
  | worker w =>
    right
    have hcore : (e.giveAnswer (.worker w) answer).core =
        { e.core with
          workers := e.workers.modify w fun k => { k with phase := k.phase.withAnswer answer }
          log := e.core.log ++ [.answered (.worker w) answer] } := by
      simp [core, giveAnswer, note, Event.isCallers]
    rw [hcore]
    exact .answer w answer
  | call c =>
    left
    simp [core, giveAnswer, note, Event.isCallers]

/-- A stream is open only if a worker reads it. -/
theorem exists_reads_of_isOpen {serial : Nat} (h : e.isOpen serial = true) :
    ∃ k ∈ e.workers, k.reads serial = true := by
  simpa [isOpen] using h

end Outside

/-! ### The core under steps -/

/-- What a step does to the core: it is the step of a caller, of the outside or of a worker. -/
theorem step_core {e e' : Engine} {action : Action} (h : e.step action = some e') :
    CallerMove e.core e'.core ∨ Supply e.core e'.core ∨
      ∃ w k, e.workers[w]? = some k ∧ k.phase.isOver = false ∧ WorkerMove e w k e' := by
  -- callers start and close, calls go on on their behalf, and the outside answers and supplies
  cases stepMove_of_step h with
  | start alive request => exact .inl (callerMove_beginCall e request true)
  | @closeHandle c key id handle =>
    exact .inl (callerMove_beginCall (e.useHandle c) _ false)
  | @worker w k _ present running move => exact .inr (.inr ⟨w, k, present, running, move⟩)
  | call present move => exact .inl (callerMove_of_callMove e move)
  | answer awaited answer =>
    rcases core_giveAnswer e _ answer with hcore | hsupply
    · rw [hcore]
      exact .inl .keep
    · exact .inr (.inl hsupply)
  | @arrive serial isOpen item =>
    rw [core_note _ rfl]
    exact .inr (.inl (.arrive serial item (exists_reads_of_isOpen e isOpen)))
  | @finish serial isOpen =>
    rw [core_note _ rfl]
    exact .inr (.inl (.finish serial (exists_reads_of_isOpen e isOpen)))
  | dropWorker alive free taken =>
    obtain ⟨hslot, hcore⟩ := core_of_takeWorker _ taken
    rw [hcore]
    exact .inl (.retire hslot)
  | tick | dropClient | setCredential | observeConnect | observeDisconnect => exact .inl .keep

end TopicStream.Engine
