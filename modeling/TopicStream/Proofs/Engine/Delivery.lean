import Mathlib.Logic.Relation
import TopicStream.Proofs.Engine.Course
import TopicStream.Proofs.Engine.Registered
import TopicStream.Proofs.Engine.Run

/-!
# Delivery is exact

A record that a worker has read calls the listeners that are registered under its name at that
moment, each once and in the order of registration; a greeting calls none, and nothing else calls
any. Which records are read is the matter of the courses of streams.

## Main results

* `readings_run`: what is read and delivered along a run are the records handled, each with the
  calls that the registry of that moment asks for;
* `registry_of_handling`: the registries of the handled records lie on the way from that of the
  first state to that of the last;
* `delivery_exact`: both together with the courses of the streams.
-/

namespace TopicStream.Engine

open Subscription TopicStream.Event

/-! ### Handled records -/

/-- Whether a record is read or a listener called. -/
def Event.isReading : Event → Bool
  | .read .. | .delivered .. => true
  | _ => false

/-- The records read and the listeners called so far, in order. -/
def readings (e : Engine) : List Event := e.events.filter Event.isReading

/-- A record that has been read, with the registry of that moment. -/
structure Handling where
  /-- The worker that has read it. -/
  worker : Nat
  /-- The stream that it has been read from. -/
  serial : Nat
  /-- The record. -/
  record : Record
  /-- The listeners of that moment. -/
  registry : Registry Listener

/-- What a listener is given for a record. -/
def Handling.payload (h : Handling) : Json := h.record.payload.getD .null

/-- The calls of listeners that a record asks for, whatever the listeners do: none for a greeting,
else one for each registration under its name. -/
def Handling.calls (h : Handling) : List Event :=
  if h.record.event = handshakeName then []
  else (h.registry.entries h.record.event).map fun p => .delivered h.worker p.1 p.2 h.payload

/-- The reading of a record and the calls that it asks for. -/
def Handling.log (h : Handling) : List Event :=
  .read h.worker h.serial h.record :: h.calls

/-- A record that is read, as it is handled with a registry. -/
def Event.handling? (registry : Registry Listener) : Event → Option Handling
  | .read worker serial record => some ⟨worker, serial, record, registry⟩
  | _ => none

/-- The records that are read along a run, each with the registry of the state in which it is. -/
def handlings (e : Engine) : List Action → List Handling
  | [] => []
  | action :: actions =>
    match e.step action with
    | none => []
    | some e' =>
      (e'.readings.drop e.readings.length).filterMap (Event.handling? e.registry) ++
        e'.handlings actions

/-- The listener that is called, if this is what happens. -/
def Event.callee? : Event → Option ListenerId
  | .delivered _ id _ _ => some id
  | _ => none

section Handling

variable {h : Handling}

theorem filterMap_handling? : h.log.filterMap (Event.handling? h.registry) = [h] := by
  have hcalls : h.calls.filterMap (Event.handling? h.registry) = [] := by
    unfold Handling.calls
    split
    · rfl
    · exact List.filterMap_eq_nil_iff.2 (List.forall_mem_map.2 fun _ _ => rfl)
  have hread : (Event.read h.worker h.serial h.record).handling? h.registry = some h := rfl
  rw [Handling.log, List.filterMap_cons_some hread, hcalls]

/-- No call goes to an id that is not registered. -/
theorem callee?_ne_of_withdrawn {id : ListenerId} (hid : h.registry.Withdrawn id) :
    ∀ event ∈ h.log, event.callee? ≠ some id := by
  refine List.forall_mem_cons.2 ⟨nofun, ?_⟩
  unfold Handling.calls
  split
  · exact nofun
  · refine List.forall_mem_map.2 fun p hp heq => ?_
    exact hid.absent _ p hp (Option.some.inj heq)

/-- One call goes to an id that is registered under the name of the record. -/
theorem filter_callee? (hwf : h.registry.WellFormed) {id : ListenerId} {listener : Listener}
    (hmem : (id, listener) ∈ h.registry.entries h.record.event)
    (hplain : h.record.event ≠ handshakeName) :
    h.log.filter (fun event => event.callee? = some id) =
      [.delivered h.worker id listener h.payload] := by
  have hcall : ∀ p : ListenerId × Listener,
      decide ((Event.delivered h.worker p.1 p.2 h.payload).callee? = some id) =
        decide (p.1 = id) := by
    intro p
    simp [Event.callee?]
  -- the id is registered once, by well-formedness
  have hone := hwf.filter_id hmem
  unfold Handling.log Handling.calls
  rw [if_neg hplain, List.filter_cons_of_neg (by simp [Event.callee?]), List.filter_map]
  simp only [Function.comp_def, hcall]
  rw [hone]
  rfl

theorem filterMap_readBy? (w serial : Nat) :
    h.log.filterMap (Event.readBy? w serial) =
      if h.worker = w ∧ h.serial = serial then [h.record] else [] := by
  have hcalls : h.calls.filterMap (Event.readBy? w serial) = [] := by
    unfold Handling.calls
    split
    · rfl
    · exact List.filterMap_eq_nil_iff.2 (List.forall_mem_map.2 fun _ _ => rfl)
  unfold Handling.log
  by_cases hsame : h.worker = w ∧ h.serial = serial
  · have hread : (Event.read h.worker h.serial h.record).readBy? w serial = some h.record :=
      if_pos hsame
    rw [if_pos hsame, List.filterMap_cons_some hread, hcalls]
  · have hread : (Event.read h.worker h.serial h.record).readBy? w serial = none := if_neg hsame
    rw [if_neg hsame, List.filterMap_cons_none hread, hcalls]

end Handling

/-! ### What a step reads and delivers -/

section Step

variable {e e' : Engine}

/-- What is read and delivered is told from the log of the core. -/
theorem readings_core (e : Engine) : e.readings = e.core.log.filter Event.isReading := by
  change e.events.filter _ = (e.events.filter _).filter _
  rw [List.filter_filter]
  refine List.filter_congr fun event _ => ?_
  cases event <;> rfl

theorem filter_isReading_eq_nil {more : List Event}
    (h : ∀ event ∈ more, event.isReading = false) : more.filter Event.isReading = [] :=
  List.filter_eq_nil_iff.2 fun event hevent => by simp [h event hevent]

/-- Only workers read and deliver. -/
theorem readings_of_log {more : List Event} (hlog : e'.core.log = e.core.log ++ more)
    (h : ∀ event ∈ more, event.isReading = false) : e'.readings = e.readings := by
  rw [readings_core, readings_core, hlog, List.filter_append, filter_isReading_eq_nil h,
    List.append_nil]

theorem readings_of_events {more : List Event} (hevents : e'.events = e.events ++ more) :
    e'.readings = e.readings ++ more.filter Event.isReading := by
  rw [readings, hevents, List.filter_append, readings]

/-- What is no reading and no call adds nothing. -/
theorem readings_of_quiet {more : List Event} (hevents : e'.events = e.events ++ more)
    (h : ∀ event ∈ more, event.isReading = false) : e'.readings = e.readings := by
  rw [readings_of_events hevents, filter_isReading_eq_nil h, List.append_nil]

/-- A greeting that is read calls no listener. -/
theorem readings_of_greeting {w serial : Nat} {record : Record} {clientId : String}
    (hgreeting : record.handshake? = some clientId) {more : List Event}
    (hevents : e'.events = e.events ++ .read w serial record :: more)
    (h : ∀ event ∈ more, event.isReading = false) :
    e'.readings = e.readings ++ Handling.log ⟨w, serial, record, e.registry⟩ := by
  -- a greeting has the name of greetings, under which nobody is called
  have hname : record.event = handshakeName := by
    unfold Record.handshake? at hgreeting
    split at hgreeting
    · assumption
    · cases hgreeting
  rw [readings_of_events hevents, List.filter_cons_of_pos rfl, filter_isReading_eq_nil h,
    Handling.log, Handling.calls, if_pos hname]

/-- Any other record that is read calls the listeners registered under its name. -/
theorem readings_of_record {w serial : Nat} {record : Record}
    (hplain : record.handshake? = none)
    (hevents : e'.events = e.events ++ .read w serial record ::
      (e.registry.entries record.event).map fun p =>
        .delivered w p.1 p.2 (record.payload.getD .null)) :
    e'.readings = e.readings ++ Handling.log ⟨w, serial, record, e.registry⟩ := by
  have hname : record.event ≠ handshakeName := by
    intro heq
    unfold Record.handshake? at hplain
    rw [if_pos heq] at hplain
    cases hplain
  -- all that happens is the reading and the calls
  rw [readings_of_events hevents, List.filter_eq_self.2, Handling.log, Handling.calls,
    if_neg hname]
  · rfl
  · exact List.forall_mem_cons.2 ⟨rfl, List.forall_mem_map.2 fun _ _ => rfl⟩

theorem readings_note (e : Engine) {event : Event} (h : event.isReading = false) :
    (e.note event).readings = e.readings :=
  readings_of_quiet (events_note e event) (by simpa using h)

theorem readings_notifyLost (e : Engine) (w : Nat) : (e.notifyLost w).readings = e.readings :=
  notifyLost_eq e w ▸ readings_of_quiet (events_noteAll e _) (List.forall_mem_map.2 fun _ _ => rfl)

theorem readings_notifyConnected (e : Engine) (w : Nat) (clientId : String) :
    (e.notifyConnected w clientId).readings = e.readings :=
  notifyConnected_eq e w clientId ▸
    readings_of_quiet (events_noteAll e _) (List.forall_mem_map.2 fun _ _ => rfl)

theorem readings_setConnection (e : Engine) (connection : Connection) (epoch : Nat) :
    (e.setConnection connection epoch).readings = e.readings := by
  rw [readings, events_setConnection, readings]

theorem readings_resetSession (e : Engine) (epoch : Nat) :
    (e.resetSession epoch).readings = e.readings := by
  rw [readings, events_resetSession, readings]

/-- A worker reads nothing, or one record, and makes the calls that it asks for. -/
theorem readings_workerMove {w : Nat} {k : Worker} (h : WorkerMove e w k e') :
    e'.readings = e.readings ∨ ∃ serial record,
      e'.readings = e.readings ++ Handling.log ⟨w, serial, record, e.registry⟩ := by
  -- a record is read in `deliver`, and a greeting in `passOver`, `announce` and `establish`
  cases h with
  | finish cancelled => exact .inl (readings_resetSession e k.epoch)
  | attempt live phase =>
    left
    refine (readings_note (e.setConnection .connecting k.epoch) rfl).trans ?_
    exact readings_setConnection e .connecting k.epoch
  | read live phase =>
    left
    let e₁ := e.setConnection .streaming k.epoch
    refine (readings_note { e₁ with streams := e₁.streams + 1 } rfl).trans ?_
    exact readings_setConnection e .streaming k.epoch
  | lose live phase =>
    left
    let e₁ := (e.resetSession k.epoch).setConnection .reconnecting k.epoch
    refine (readings_notifyLost e₁ w).trans ?_
    exact (readings_setConnection _ .reconnecting k.epoch).trans (readings_resetSession e k.epoch)
  | crash live phase => exact .inl rfl
  | take live phase next => exact .inl rfl
  | @deliver live body phase record after next plain =>
    refine .inr ⟨body.serial, record, readings_of_record plain ?_⟩
    simp only [events_setWorker, dispatch_eq, events_noteAll, events_note, List.append_assoc,
      List.singleton_append]
    rfl
  | @passOver live body phase record after next clientId greeting late =>
    refine .inr ⟨body.serial, record, ?_⟩
    exact readings_of_greeting greeting (events_note e (.read w body.serial record)) nofun
  | @announce live body phase record after next clientId greeting current due =>
    have hevents : (((e.greeted w body.serial record clientId).note
        (.announced (.worker w) clientId e.registry.activeTopics)).setWorker w
        (.greeting clientId { body with records := after } none)).events =
          e.events ++ .read w body.serial record ::
            [.announced (.worker w) clientId e.registry.activeTopics] := by
      simp
    exact .inr ⟨body.serial, record, readings_of_greeting greeting hevents (by
      simp [Event.isReading])⟩
  | @establish live body phase record after next clientId greeting current nothing =>
    have hevents : (((e.greeted w body.serial record clientId).notifyConnected w clientId).setWorker
        w (.reading { body with records := after })).events =
          e.events ++ .read w body.serial record ::
            e.onConnect.map fun o => .connected w o clientId := by
      simp only [events_setWorker, notifyConnected_eq, events_noteAll, events_greeted,
        List.append_assoc, List.singleton_append]
      rfl
    refine .inr ⟨body.serial, record, readings_of_greeting greeting hevents ?_⟩
    exact List.forall_mem_map.2 fun _ _ => rfl
  | @greet live clientId body phase survives => exact .inl (readings_notifyConnected e w clientId)

/-- A step reads nothing, or one record, and makes the calls that it asks for with the registry of
that moment. -/
theorem readings_step {action : Action} (h : e.step action = some e') :
    e'.readings = e.readings ∨ ∃ w serial record,
      e'.readings = e.readings ++ Handling.log ⟨w, serial, record, e.registry⟩ := by
  rcases step_core h with hmove | hsupply | ⟨w, k, -, -, hmove⟩
  · left
    have hlog : e'.core.log = e.core.log ++ [] := by
      rw [hmove.log, List.append_nil]
    exact readings_of_log hlog nofun
  · left
    generalize he' : e'.core = c' at hsupply
    cases hsupply with
    | answer w answer => exact readings_of_log (by rw [he']) (by simp [Event.isReading])
    | arrive serial item isRead => exact readings_of_log (by rw [he']) (by simp [Event.isReading])
    | finish serial isRead => exact readings_of_log (by rw [he']) (by simp [Event.isReading])
  · exact (readings_workerMove hmove).imp id fun hread => ⟨w, hread⟩

end Step

/-! ### The registry between two states -/

/-- The registries that steps lead to. -/
def RegistryRun : Registry Listener → Registry Listener → Prop :=
  Relation.ReflTransGen RegistryMove

section RegistryRun

variable {r r' r'' : Registry Listener}

theorem RegistryRun.wellFormed (h : RegistryRun r r') (hr : r.WellFormed) : r'.WellFormed := by
  induction h with
  | refl => exact hr
  | tail _ hmove ih => exact hmove.wellFormed ih

theorem RegistryMove.withdrawn {id : ListenerId} (h : RegistryMove r r') (hid : r.Withdrawn id) :
    r'.Withdrawn id := by
  cases h with
  | keep => exact hid
  | add key listener => exact hid.add key listener
  | remove what =>
    exact hid.of_sublist (Removal.issued_apply r what) (Removal.entries_apply_sublist r what)

theorem RegistryRun.withdrawn {id : ListenerId} (h : RegistryRun r r') (hid : r.Withdrawn id) :
    r'.Withdrawn id := by
  induction h with
  | refl => exact hid
  | tail _ hmove ih => exact hmove.withdrawn ih

/-- A step keeps a registration or withdraws its id. -/
theorem RegistryMove.mem_or_withdrawn (h : RegistryMove r r') (hr : r.WellFormed) {key : String}
    {p : ListenerId × Listener} (hp : p ∈ r.entries key) :
    p ∈ r'.entries key ∨ r'.Withdrawn p.1 := by
  cases h with
  | keep => exact .inl hp
  | add key' listener =>
    left
    rw [Registry.entries_add]
    by_cases hkey : key' = key
    · rw [if_pos hkey, hkey]
      exact List.mem_append_left _ hp
    · rw [if_neg hkey]
      exact hp
  | remove what =>
    -- if the registration is not left, its id is not registered under any other topic either
    by_cases hout : p ∈ (what.apply r).entries key
    · exact .inl hout
    · exact .inr (hr.withdrawn_of_sublist (Removal.issued_apply r what)
        (Removal.entries_apply_sublist r what) hp hout)

theorem RegistryRun.mem_or_withdrawn (h : RegistryRun r r') (hr : r.WellFormed) {key : String}
    {p : ListenerId × Listener} (hp : p ∈ r.entries key) :
    p ∈ r'.entries key ∨ r'.Withdrawn p.1 := by
  induction h with
  | refl => exact .inl hp
  | tail hrun hmove ih =>
    rcases ih with hmem | hid
    · exact hmove.mem_or_withdrawn (RegistryRun.wellFormed hrun hr) hmem
    · exact .inr (hmove.withdrawn hid)

/-- A registration that is there at the beginning and at the end is there all the time. -/
theorem RegistryRun.mem_between (h : RegistryRun r r') (h' : RegistryRun r' r'')
    (hr : r.WellFormed) {key : String} {p : ListenerId × Listener} (hp : p ∈ r.entries key)
    (hp'' : p ∈ r''.entries key) : p ∈ r'.entries key := by
  -- an id withdrawn in between would have stayed so
  rcases h.mem_or_withdrawn hr hp with hmem | hid
  · exact hmem
  · exact absurd rfl ((h'.withdrawn hid).absent key p hp'')

end RegistryRun

/-! ### Runs -/

section Run

variable {e e' : Engine} {actions : List Action}

theorem handlings_cons {action : Action} {e₁ : Engine} (hstep : e.step action = some e₁)
    (actions : List Action) :
    (e.handlings (action :: actions) = e₁.handlings actions ∧ e₁.readings = e.readings) ∨
      ∃ h : Handling, h.registry = e.registry ∧
        e.handlings (action :: actions) = h :: e₁.handlings actions ∧
        e₁.readings = e.readings ++ h.log := by
  have hcons : e.handlings (action :: actions) =
      (e₁.readings.drop e.readings.length).filterMap (Event.handling? e.registry) ++
        e₁.handlings actions := by
    rw [handlings, hstep]
  rcases readings_step hstep with hsame | ⟨w, serial, record, hread⟩
  · left
    rw [hcons, hsame, List.drop_length]
    exact ⟨rfl, rfl⟩
  · right
    refine ⟨⟨w, serial, record, e.registry⟩, rfl, ?_, hread⟩
    have hone := filterMap_handling? (h := ⟨w, serial, record, e.registry⟩)
    rw [hcons, hread, List.drop_left, hone]
    rfl

/-- Along a run, what is read and delivered are the records handled, each with the calls that it
asks for with the registry of its moment. -/
theorem readings_run (hrun : e.run actions = some e') :
    e'.readings = e.readings ++ (e.handlings actions).flatMap Handling.log := by
  -- induction on the actions, with the first step handling one record at most
  induction actions generalizing e with
  | nil =>
    cases hrun
    exact (List.append_nil _).symm
  | cons action actions ih =>
    obtain ⟨e₁, hstep, hrest⟩ := Option.bind_eq_some_iff.1 hrun
    rcases handlings_cons hstep actions with ⟨hsame, hnone⟩ | ⟨h, -, hcons, hread⟩
    · rw [hsame, ih hrest, hnone]
    · rw [hcons, ih hrest, hread, List.flatMap_cons, List.append_assoc]

theorem recordsRead_events (e : Engine) (w serial : Nat) :
    recordsRead w serial e.events = e.readings.filterMap (Event.readBy? w serial) := by
  rw [readings, List.filterMap_filter, recordsRead]
  refine List.filterMap_congr fun event _ => ?_
  cases event <;> rfl

/-- Along a run, the records that a worker reads from a stream are those that are handled. -/
theorem recordsRead_run (hrun : e.run actions = some e') (w serial : Nat) :
    recordsRead w serial e'.events = recordsRead w serial e.events ++
      ((e.handlings actions).filter fun h => h.worker = w ∧ h.serial = serial).map (·.record) := by
  rw [recordsRead_events, readings_run hrun, List.filterMap_append, ← recordsRead_events]
  congr 1
  induction e.handlings actions with
  | nil => rfl
  | cons h handlings ih =>
    rw [List.flatMap_cons, List.filterMap_append, ih, filterMap_readBy?]
    by_cases hsame : h.worker = w ∧ h.serial = serial
    · rw [if_pos hsame, List.filter_cons_of_pos (by simpa using hsame)]
      rfl
    · rw [if_neg hsame, List.filter_cons_of_neg (by simpa using hsame)]
      rfl

theorem registryRun_of_run (hrun : e.run actions = some e') :
    RegistryRun e.registry e'.registry := by
  induction actions generalizing e with
  | nil =>
    cases hrun
    exact .refl
  | cons action actions ih =>
    obtain ⟨e₁, hstep, hrest⟩ := Option.bind_eq_some_iff.1 hrun
    exact Relation.ReflTransGen.head (step_registry hstep) (ih hrest)

/-- The registry with which a record is handled is one that the run passes. -/
theorem registry_of_handling (hrun : e.run actions = some e') {h : Handling}
    (hmem : h ∈ e.handlings actions) :
    RegistryRun e.registry h.registry ∧ RegistryRun h.registry e'.registry := by
  induction actions generalizing e with
  | nil => cases hmem
  | cons action actions ih =>
    have hall := registryRun_of_run hrun
    obtain ⟨e₁, hstep, hrest⟩ := Option.bind_eq_some_iff.1 hrun
    -- handled after the first step, with a registry behind that step
    have hlater : h ∈ e₁.handlings actions →
        RegistryRun e.registry h.registry ∧ RegistryRun h.registry e'.registry := by
      intro hlater
      obtain ⟨hbefore, hafter⟩ := ih hrest hlater
      exact ⟨Relation.ReflTransGen.head (step_registry hstep) hbefore, hafter⟩
    rcases handlings_cons hstep actions with ⟨hsame, -⟩ | ⟨h', hregistry, hcons, -⟩
    · exact hlater (hsame ▸ hmem)
    · rcases List.mem_cons.1 (hcons ▸ hmem) with rfl | hlate
      -- handled by the first step, with the registry before it
      · rw [hregistry]
        exact ⟨.refl, hall⟩
      · exact hlater hlate

end Run

/-- Delivery along every run. All that is read and delivered are the records handled, each followed
by the calls of the listeners registered under its name at that moment, or by none if it is a
greeting; these come once each and in the order of registration. A listener whose id has been
withdrawn is not called again. A listener that stays registered is called once for each record of
its name. The records handled are those that the bodies of the streams decode to, in order and none
left out, up to an error, the end of the body, or the end of the worker; where nothing can go on, a
worker that is reading has handled all that has arrived. -/
theorem delivery_exact {settings : Settings} {credential : Option String} {e e' : Engine}
    {actions : List Action} (he : Reachable settings credential e)
    (hrun : e.run actions = some e') :
    e'.readings = e.readings ++ (e.handlings actions).flatMap Handling.log ∧
    (∀ h ∈ e.handlings actions,
      (h.registry.entries h.record.event).Pairwise fun p q => p.1.number < q.1.number) ∧
    (∀ id, e.registry.Withdrawn id → ∀ h ∈ e.handlings actions,
      ∀ event ∈ h.log, event.callee? ≠ some id) ∧
    (∀ key id listener, (id, listener) ∈ e.registry.entries key →
      (id, listener) ∈ e'.registry.entries key → key ≠ handshakeName →
      ∀ h ∈ e.handlings actions, h.record.event = key →
        h.log.filter (fun event => event.callee? = some id) =
          [.delivered h.worker id listener h.payload]) ∧
    (∀ w serial, recordsRead w serial e'.events = recordsRead w serial e.events ++
      ((e.handlings actions).filter fun h => h.worker = w ∧ h.serial = serial).map (·.record)) ∧
    (∀ w serial, .opened w serial ∈ e'.events → Course e'.workers e'.events w serial) ∧
    (Quiescent e' → ∀ (w : Nat) (k : Worker) (body : Body), e'.workers[w]? = some k →
      k.phase = .reading body →
      decodeAll (arrivals body.serial e'.events) =
        (recordsRead w body.serial e'.events).map .ok) := by
  have hwf := wellFormed_of_reachable he
  have he' := he.run hrun
  refine ⟨readings_run hrun, fun h hh => ?_, fun id hid h hh => ?_,
    fun key id listener hmem hmem' hkey h hh hname => ?_, recordsRead_run hrun,
    fun w serial hopened => course_of_reachable he' hopened,
    fun hquiescent w k body hk hphase => caught_up_of_quiescent he' hquiescent hk hphase⟩
  · have hbefore := (registry_of_handling hrun hh).1
    exact (hbefore.wellFormed hwf).ascending h.record.event
  · have hbefore := (registry_of_handling hrun hh).1
    exact callee?_ne_of_withdrawn (hbefore.withdrawn hid)
  · obtain ⟨hbefore, hafter⟩ := registry_of_handling hrun hh
    refine filter_callee? (hbefore.wellFormed hwf) ?_ (hname ▸ hkey)
    rw [hname]
    exact hbefore.mem_between hafter hwf hmem hmem'

/-- Two listeners of one topic, of which the first crashes, and one for greetings. -/
def threeListeners : List Action :=
  [.start (.subscribe "news" .none (.sample "first" true)),
    .start (.subscribe "news" .none (.sample "second" false)),
    .start (.subscribe handshakeName .none (.sample "third" false))]

/-- A greeting and a record of the topic are read, the first listener is removed, and a record
without a payload follows. -/
def removalBetweenRecords : List Action :=
  openingActions 0 0 (greetingBytes "c1" ++ Text.Utf8.encode "event: news\ndata: 1\n\n".toList) ++
    [.resume (.worker 0) true, .answer (.worker 0) .success, .resume (.worker 0) true,
      .resume (.worker 0) true, .start (.remove (.listener "news" ⟨1⟩)),
      .arrive 0 (.ok (Text.Utf8.encode "event: news\n\n".toList)), .resume (.worker 0) true,
      .resume (.worker 0) true]

/-- The second listener is called for both records of the topic; the first, which crashes, only for
the one before its removal, and the third for none. -/
theorem delivery_exact_removal :
    ∃ e e', (Engine.initial .sample none).run threeListeners = some e ∧
      e.run removalBetweenRecords = some e' ∧
      (e'.readings.filterMap Event.callee?).map (·.number) = [1, 2, 2] ∧
      ∀ h ∈ e.handlings removalBetweenRecords, h.record.event = "news" →
        h.log.filter (fun event => event.callee? = some ⟨2⟩) =
          [.delivered h.worker ⟨2⟩ (.sample "second" false) h.payload] := by
  obtain ⟨e, hrun, hend⟩ := exists_run (.initial .sample none) threeListeners
    (fun e => (⟨2⟩, .sample "second" false) ∈ e.registry.entries "news" &&
      (e.run removalBetweenRecords).any fun e' =>
        (⟨2⟩, .sample "second" false) ∈ e'.registry.entries "news" &&
          (e'.readings.filterMap Event.callee?).map (·.number) = [1, 2, 2]) (by decide +kernel)
  obtain ⟨hmem, hrest⟩ := Bool.and_eq_true_iff.1 hend
  obtain ⟨e', hrun', hend'⟩ := exists_run e removalBetweenRecords _ hrest
  obtain ⟨hmem', hcalls⟩ := Bool.and_eq_true_iff.1 hend'
  obtain ⟨-, -, -, honce, -⟩ := delivery_exact (Reachable.initial.run hrun) hrun'
  exact ⟨e, e', hrun, hrun', of_decide_eq_true hcalls, honce "news" ⟨2⟩ _ (of_decide_eq_true hmem)
    (of_decide_eq_true hmem') (by decide)⟩

end TopicStream.Engine
