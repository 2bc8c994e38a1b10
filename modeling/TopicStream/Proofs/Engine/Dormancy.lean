import TopicStream.Proofs.Engine.Announcement
import TopicStream.Proofs.Engine.Teardown

/-!
# No restart without a request

A teardown may overtake calls that are still in progress: subscriptions that wait for the greeting,
announcements that have not been answered, registrations that are being undone. All of them find the
slot empty and no session, and there they do no more than to end: there is nothing to announce
without a session and nothing to give up without a worker. A worker is started only by a call that
asks for the connection as it begins. So until one is started the engine is dormant.

## Main results

* `dormant_step`: what a step does to an engine without a worker;
* `dormant_until_asked`: what follows for a run from a teardown on.
-/

namespace TopicStream.Engine

open Subscription

/-! ### Asking for the connection -/

/-- Whether a call that is asked for this sees to it that a worker is running. -/
def Request.connects : Request → Bool
  | .subscribe topic _ _ => topic != ""
  | .ensureConnected _ => true
  | .disconnect | .remove _ => false

/-- Whether an action starts a call that sees to it that a worker is running. -/
def Action.connects : Action → Bool
  | .start request => request.connects
  | _ => false

/-- Whether this has come in from outside or is the end of a call. Nothing else is: no stream is
asked for or opened, nothing is announced, and neither a listener nor an observer is called. -/
def Event.isPassive : Event → Bool
  | .answered .. | .arrived .. | .ended _ | .returned .. => true
  | _ => false

/-- What becomes of an engine without a worker. -/
structure Dormant (e e' : Engine) : Prop where
  /-- There is no worker. -/
  slot : e'.slot = none
  /-- Things come in from outside, calls end, and nothing else happens. -/
  events : ∃ more, e'.events = e.events ++ more ∧ ∀ event ∈ more, event.isPassive = true

section Dormant

variable {e e' e'' : Engine}

theorem Dormant.of_events (hslot : e'.slot = none) (hevents : e'.events = e.events) :
    Dormant e e' :=
  ⟨hslot, [], hevents.trans (List.append_nil _).symm, nofun⟩

theorem Dormant.trans (h : Dormant e e') (h' : Dormant e' e'') : Dormant e e'' := by
  obtain ⟨-, more, hevents, hmore⟩ := h
  obtain ⟨hslot, more', hevents', hmore'⟩ := h'
  refine ⟨hslot, more ++ more', ?_, List.forall_mem_append.2 ⟨hmore, hmore'⟩⟩
  rw [hevents', hevents, List.append_assoc]

/-- What has happened before is all that matters of the state before. -/
theorem Dormant.of_before (h : Dormant e' e'') (hevents : e'.events = e.events) :
    Dormant e e'' :=
  ⟨h.slot, hevents ▸ h.events⟩

theorem Dormant.of_passive {event : Event} (hslot : e'.slot = none)
    (hevents : e'.events = e.events ++ [event]) (hpassive : event.isPassive = true) :
    Dormant e e' :=
  ⟨hslot, [event], hevents, List.forall_mem_singleton.2 hpassive⟩

/-- Where there is no worker, a call that tears the connection down ends. -/
theorem Closes.proceeds_of_vacant {c : Nat} {outcome : Outcome} (h : Closes e e' c outcome)
    (hslot : e.slot = none) : Proceeds e e' c (.ended outcome) [.returned c outcome] := by
  cases h with
  | ends proceeds => exact proceeds
  | joins occupied vacated proceeds => cases hslot.symm.trans occupied

theorem Proceeds.dormant {c : Nat} {outcome : Outcome}
    (h : Proceeds e e' c (.ended outcome) [.returned c outcome]) (hslot : e'.slot = none) :
    Dormant e e' :=
  .of_passive hslot h.events rfl

end Dormant

/-! ### Calls without a worker -/

section Calls

variable {e e' : Engine}

/-- Without a session a call announces nothing. -/
theorem announceFor_of_none (hsession : e.session = .none) (c : Nat)
    (otherwise : Engine → Engine) : e.announceFor c otherwise = otherwise e := by
  rw [announceFor, announce?, announcement?_of_none hsession]
  rfl

/-- Without a worker and a session a removal is done as it begins. -/
theorem proceeds_concludeRemoval_of_vacant (hslot : e.slot = none) (c : Nat) (outcome : Outcome) :
    Proceeds e (e.concludeRemoval c outcome) c (.ended outcome) [.returned c outcome] :=
  (closes_concludeRemoval e c outcome).proceeds_of_vacant hslot

theorem dormant_concludeRemoval (hslot : e.slot = none) (c : Nat) (outcome : Outcome) :
    Dormant e (e.concludeRemoval c outcome) := by
  refine (proceeds_concludeRemoval_of_vacant hslot c outcome).dormant ?_
  rw [slot_concludeRemoval, hslot, ite_self]

/-- A call whose registration is undone announces nothing and gives nothing up. -/
theorem dormant_rollBack (hslot : e.slot = none) (hsession : e.session = .none) (c : Nat)
    (key : String) (id : ListenerId) (error : ClientError) :
    Dormant e (e.rollBack c key id error) := by
  let e₁ := { e with registry := (e.registry.removeListener key id).2 }
  have hnothing : e₁.announce? (.call c) = none := by
    rw [announce?, announcement?_of_none (e := e₁) hsession]
    rfl
  have hback : e.rollBack c key id error = e₁.concludeRemoval c (.failed error) := by
    simp only [rollBack, concludeRemoval]
    rw [hnothing]
  rw [hback]
  exact (dormant_concludeRemoval (e := e₁) hslot c (.failed error)).of_before rfl

theorem dormant_endCall (hslot : e.slot = none) (c : Nat) (outcome : Outcome) :
    Dormant e (e.endCall c outcome) :=
  (proceeds_endCall e c outcome).dormant hslot

/-- A call that goes on without a worker and a session ends. -/
theorem dormant_callMove (hslot : e.slot = none) (hsession : e.session = .none)
    (hready : e.ready = false) {c : Nat} {call : Call} (h : CallMove e c call e') :
    Dormant e e' := by
  cases h with
  | announce phase ready | greeted phase ready =>
    -- nobody is told that the greeting has come
    rw [hready] at ready
    cases ready
  | undo subscriber cause => exact dormant_rollBack hslot hsession c _ _ _
  | conclude phase remover cause => exact dormant_concludeRemoval hslot c _
  | join phase ended =>
    refine (proceeds_concludeDisconnect e c _).dormant ?_
    rw [slot_concludeDisconnect, hslot]
  | timeOut | subscribed | restored | crash => exact dormant_endCall hslot c _

/-- A removal that begins without a worker and a session ends as it begins. -/
theorem beginCall_remove_of_vacant (hslot : e.slot = none) (hsession : e.session = .none)
    (what : Removal) (borrows : Bool) :
    Dormant e (e.beginCall (.remove what) borrows) ∧
      (e.beginCall (.remove what) borrows).registry = what.apply e.registry ∧
      (e.beginCall (.remove what) borrows).events =
        e.events ++ [.returned e.calls.length .done] ∧
      ∃ call, (e.beginCall (.remove what) borrows).calls[e.calls.length]? = some call ∧
        call.request = .remove what ∧ call.phase = .ended .done := by
  have hregistry := registry_beginCall_remove e what borrows
  have hproceeds := proceeds_concludeRemoval_of_vacant (e := e.withRemoval what borrows) hslot
    e.calls.length .done
  have hdormant := dormant_concludeRemoval (e := e.withRemoval what borrows) hslot
    e.calls.length .done
  -- without a session the removal has nothing to announce
  have hbegin : e.beginCall (.remove what) borrows =
      (e.withRemoval what borrows).concludeRemoval e.calls.length .done := by
    rw [beginCall_remove_eq, announceFor_of_none (e := e.withRemoval what borrows) hsession]
  rw [← hbegin] at hproceeds hdormant
  exact ⟨hdormant.of_before rfl, hregistry, hproceeds.events, _,
    hproceeds.goes.self (getElem?_withRemoval e what borrows), rfl, rfl⟩

/-- A call begins that does not ask for the connection. -/
theorem dormant_beginCall (hslot : e.slot = none) (hsession : e.session = .none)
    {request : Request} (hrequest : request.connects = false) (borrows : Bool) :
    Dormant e (e.beginCall request borrows) := by
  cases request with
  | subscribe topic options listener =>
    have htopic : topic = "" := by simpa [Request.connects] using hrequest
    simp only [beginCall, if_pos htopic]
    exact .of_passive hslot (events_note _ _) rfl
  | ensureConnected patience => cases hrequest
  | disconnect =>
    let e₀ := e.addCall .disconnect borrows none (.ended .done)
    have hproceeds := (closes_beginDisconnect e₀ e.calls.length .done).proceeds_of_vacant hslot
    exact .of_passive (slot_beginDisconnect e₀ _ _) hproceeds.events rfl
  | remove what => exact (beginCall_remove_of_vacant hslot hsession what borrows).1

end Calls

/-! ### Steps and runs -/

section Steps

variable {settings : Settings} {credential : Option String} {e e₁ e' : Engine} {action : Action}
  {actions : List Action}

/-- Without a worker a step that does not ask for the connection starts none, and reaches neither
the transport nor a listener nor an observer. -/
theorem dormant_step (he : Reachable settings credential e) (hslot : e.slot = none)
    (hstep : e.step action = some e') (hunasked : action.connects = false) : Dormant e e' := by
  obtain ⟨hsession, hready⟩ := session_of_vacant (sessionInv_of_reachable he) hslot
  cases stepMove_of_step hstep with
  | start alive request => exact dormant_beginCall hslot hsession hunasked true
  | @closeHandle c key id handle =>
    exact (beginCall_remove_of_vacant (e := e.useHandle c) hslot hsession _ false).1.of_before rfl
  | @worker w k _ present running move preferAnswer =>
    -- all workers are out of the slot, so that all that this one does is to end
    have hretired : e.Retired w :=
      ⟨(List.getElem?_eq_some_iff.1 present).1, by rw [hslot]; exact nofun⟩
    rw [eq_setWorker_of_retired (slotInv_of_reachable he) hretired hstep]
    exact .of_events hslot (events_setWorker e w .finished)
  | call present move => exact dormant_callMove hslot hsession hready move
  | @answer task awaited answer =>
    have hevents := (notes_giveAnswer e task answer).events
    refine .of_passive ?_ hevents rfl
    cases task <;> exact hslot
  | @arrive serial isOpen item => exact .of_passive hslot (events_note _ _) rfl
  | @finish serial isOpen => exact .of_passive hslot (events_note _ _) rfl
  | dropWorker alive free taken =>
    cases hslot.symm.trans (core_of_takeWorker _ taken).1
  | tick | dropClient | setCredential | observeConnect | observeDisconnect =>
    exact .of_events hslot rfl

theorem dormant_run (he : Reachable settings credential e) (hslot : e.slot = none)
    (hrun : e.run actions = some e') (hunasked : ∀ action ∈ actions, action.connects = false) :
    Dormant e e' := by
  -- reachability is carried along, for what it says of the session
  refine (run_invariant (p := fun e' => Reachable settings credential e' ∧ Dormant e e') hrun
    hunasked (fun hunasked hstep hbefore => ?_) ⟨he, .of_events hslot rfl⟩).2
  obtain ⟨hreach, hdormant⟩ := hbefore
  exact ⟨hreach.step _ hstep,
    hdormant.trans (dormant_step hreach hdormant.slot hstep hunasked)⟩

/-- A handle has been closed. -/
structure HandleClosed (e e' : Engine) (key : String) (id : ListenerId) : Prop where
  /-- Its registration, if it is still there, is taken out, and nothing else is. -/
  registry : e'.registry = (e.registry.removeListener key id).2
  /-- The registration is gone. -/
  gone : ∀ listener, (id, listener) ∉ e'.registry.entries key
  /-- The call that was started for it is done. -/
  returned : ∃ call, e'.calls[e.calls.length]? = some call ∧
    call.request = .remove (.listener key id) ∧ call.phase = .ended .done
  /-- Nothing else has happened. -/
  events : e'.events = e.events ++ [.returned e.calls.length .done]

/-- Without a worker a handle is closed in one step. -/
theorem handleClosed_of_vacant (he : Reachable settings credential e) (hslot : e.slot = none)
    {c : Nat} {key : String} {id : ListenerId}
    (hhandle : e.calls[c]?.bind Call.handle? = some (key, id)) :
    ∃ e', e.step (.closeHandle c) = some e' ∧ HandleClosed e e' key id := by
  obtain ⟨hsession, -⟩ := session_of_vacant (sessionInv_of_reachable he) hslot
  obtain ⟨-, hregistry, hevents, hcall⟩ := beginCall_remove_of_vacant (e := e.useHandle c) hslot
    hsession (.listener key id) false
  have hlength : (e.useHandle c).calls.length = e.calls.length := List.length_modify ..
  rw [hlength] at hevents hcall
  refine ⟨(e.useHandle c).beginCall (.remove (.listener key id)) false, ?_, hregistry,
    fun listener hmem => ?_, hcall, hevents⟩
  · simp only [step, hhandle]
  · rw [hregistry, Removal.apply, Registry.entries_removeListener, if_pos rfl,
      List.mem_filter] at hmem
    simp at hmem

/-- Nothing is started again unless somebody asks for it. Take a step that disconnects, drops the
client or gives up the worker in the slot by whatever call, and a run from there on in which no call
is started that asks for the connection, neither a subscription with a topic nor a wait for the
greeting. Whatever was in progress when the worker was given up, and whatever is removed or closed
afterwards, there is no worker, no session and no client id at the end of the run, and on the way
there no stream has been asked for or opened, nothing announced, and no listener or observer called:
things have come in from outside and calls have ended, that is all. A handle that is still open can
be closed: that takes its registration out and is done in one step. -/
theorem dormant_until_asked (he : Reachable settings credential e)
    (hstep : e.step action = some e₁)
    (hteardown : action = .start .disconnect ∨ action = .dropClient ∨
      ((∃ w, e.slot = some w) ∧ e₁.slot = none))
    (hrun : e₁.run actions = some e') (hunasked : ∀ action ∈ actions, action.connects = false) :
    e'.slot = none ∧ e'.session = ⟨"", false⟩ ∧ e'.ready = false ∧
      (∃ more, e'.events = e₁.events ++ more ∧ ∀ event ∈ more, event.isPassive = true) ∧
      ∀ c key id, e'.calls[c]?.bind Call.handle? = some (key, id) →
        ∃ e'', e'.step (.closeHandle c) = some e'' ∧ HandleClosed e' e'' key id := by
  -- each of the three ways leaves the slot empty
  have hslot : e₁.slot = none := by
    rcases hteardown with rfl | rfl | ⟨-, hvacated⟩
    · exact slot_of_disconnect hstep
    · cases stepMove_of_step hstep with
      | dropClient alive free vacant => exact vacant
      | dropWorker alive free taken => exact slot_of_takeWorker _ taken
    · exact hvacated
  have hreach := he.step action hstep
  have hdormant := dormant_run hreach hslot hrun hunasked
  obtain ⟨hsession, hready⟩ :=
    session_of_vacant (sessionInv_of_reachable (hreach.run hrun)) hdormant.slot
  exact ⟨hdormant.slot, hsession, hready, hdormant.events,
    fun c key id => handleClosed_of_vacant (hreach.run hrun) hdormant.slot⟩

end Steps

/-- Two topics are subscribed to, the first with success, the second with an announcement that is
held, and a third subscription has not gone on yet, when the connection is torn down. -/
def tornDownMidway : List Action :=
  [.start (.subscribe "news" .none (.sample "first" false))] ++
    openingActions 0 0 (greetingBytes "c1") ++
    [.resume (.worker 0) true, .resume (.call 0) true, .answer (.call 0) .success,
      .resume (.call 0) true, .start (.subscribe "sport" .none (.sample "second" false)),
      .resume (.call 1) true, .start (.subscribe "weather" .none (.sample "third" false))]

/-- The held announcements are answered, the worker ends, the third subscription waits in vain, and
the first handle is closed. -/
def afterTeardown : List Action :=
  [.answer (.worker 0) .success, .answer (.call 1) .success, .resume (.call 1) false,
    .resume (.worker 0) true, .resume (.call 3) true, .tick 5000, .resume (.call 2) true,
    .closeHandle 0]

/-- The second handle is still open then, and can be closed. -/
theorem dormant_until_asked_midway :
    ∃ e e₁ e', (Engine.initial .sample none).run tornDownMidway = some e ∧
      e.slot = some 0 ∧ e.session = ⟨"c1", true⟩ ∧ e.step (.start .disconnect) = some e₁ ∧
      e₁.run afterTeardown = some e' ∧ e'.slot = none ∧ e'.session = ⟨"", false⟩ ∧
      (∃ more, e'.events = e₁.events ++ more ∧ ∀ event ∈ more, event.isPassive = true) ∧
      ∃ e'', e'.step (.closeHandle 1) = some e'' ∧ HandleClosed e' e'' "sport" ⟨2⟩ := by
  obtain ⟨e, hrun, hend⟩ := exists_run (.initial .sample none) tornDownMidway
    (fun e => (e.slot = some 0 && e.session = ⟨"c1", true⟩) &&
      (e.run (.start .disconnect :: afterTeardown)).any fun e' =>
        e'.calls[1]?.bind Call.handle? = some ("sport", ⟨2⟩)) (by decide +kernel)
  obtain ⟨hstate, hrest⟩ := Bool.and_eq_true_iff.1 hend
  obtain ⟨hslot, hsession⟩ := Bool.and_eq_true_iff.1 hstate
  obtain ⟨e', hrun', hend'⟩ := exists_run e (.start .disconnect :: afterTeardown) _ hrest
  obtain ⟨e₁, hstep, hrun₁⟩ := Option.bind_eq_some_iff.1 hrun'
  obtain ⟨hslot', hsession', -, hevents, hclose⟩ :=
    dormant_until_asked (Reachable.initial.run hrun) hstep (.inl rfl) hrun₁
      (by simp [afterTeardown, Action.connects])
  exact ⟨e, e₁, e', hrun, of_decide_eq_true hslot, of_decide_eq_true hsession, hstep, hrun₁,
    hslot', hsession', hevents, hclose 1 "sport" ⟨2⟩ (of_decide_eq_true hend')⟩

end TopicStream.Engine
