import TopicStream.Proofs.Engine.Accounts
import TopicStream.Proofs.Engine.Session
import TopicStream.Proofs.Engine.Silence

/-!
# Waiting for the greeting

A call that waits for the greeting looks at the flag of the session first, and at the time only if
the flag is down. The flag says whether the session is ready, and time passes neither a deadline nor
a task that can go on. So a wait ends well only while the session is ready, it ends badly only at
its deadline and only while the session is not ready (`WaitOver`), and where nothing can go on a
call that still waits has neither a session nor reached its deadline. How often the session has come
and gone meanwhile does not matter.

Neither does the session that a crashed worker has left behind: the call that begins finds no worker
running, and the worker that it starts begins without a session. A session that is ready later is
that of a greeting which this worker or a later one has read (`GreetedSince`).

## Main results

* `waiting_step`, `waiting_run`: what a step and a run do to a call that waits;
* `greetedSince_of_ready`: where a ready session comes from;
* `wait_exact`: how a wait for the greeting ends, and what it is before.
-/

namespace TopicStream.Engine

open Subscription

/-! ### The end of a wait -/

/-- How a wait for the greeting ends in a step, for a call that has registered a listener or not. -/
inductive WaitOver (e : Engine) (c : Nat) (registered : Option (String × ListenerId))
    (patience : Duration) (deadline : Nat) : Engine → Prop
  /-- The session is ready, and a call that just waits is done. -/
  | done (waiter : registered = none) (ready : e.session.ready = true) :
      WaitOver e c registered patience deadline (e.endCall c .done)
  /-- The session is ready, and a subscription announces the topics, or succeeds if there is nothing
  to announce. -/
  | goOn {key : String} {id : ListenerId} (subscriber : registered = some (key, id))
      (ready : e.session.ready = true) :
      WaitOver e c registered patience deadline
        (e.announceFor c fun e => e.endCall c (.subscribed key id))
  /-- The deadline has come without a session, and a call that just waits fails. -/
  | fail (waiter : registered = none) (due : e.now = deadline) (waits : e.session.ready = false) :
      WaitOver e c registered patience deadline
        (e.endCall c (.failed (.connectTimeout e.settings.url patience.toMillis)))
  /-- The deadline has come without a session, and a subscription undoes its registration. -/
  | undo {key : String} {id : ListenerId} (subscriber : registered = some (key, id))
      (due : e.now = deadline) (waits : e.session.ready = false) :
      WaitOver e c registered patience deadline
        (e.rollBack c key id (.connectTimeout e.settings.url patience.toMillis))

/-- A call waits for the greeting. -/
structure StillWaiting (e : Engine) (call : Call) (deadline : Nat) : Prop where
  /-- Its deadline is the one that it began with. -/
  phase : call.phase = .awaiting deadline
  /-- The deadline has not been passed. -/
  inTime : e.now ≤ deadline
  /-- Where nothing can go on, there is no session and the deadline has not come. -/
  rests : Quiescent e → e.session.ready = false ∧ e.now < deadline

section Steps

variable {settings : Settings} {credential : Option String} {e e' : Engine} {action : Action}
  {actions : List Action} {c : Nat} {call call' : Call} {patience : Duration}
  {deadline : Nat}

theorem waitOver_of_callMove (hflag : e.ready = e.session.ready)
    (hphase : call.phase = .awaiting deadline) (hinTime : e.now ≤ deadline)
    (hpatience : call.request.patience? e.settings = some patience) (h : CallMove e c call e') :
    WaitOver e c call.registered patience deadline e' := by
  cases h with
  | announce phase ready subscriber => exact .goOn subscriber (hflag.symm.trans ready)
  | greeted phase ready waiter => exact .done waiter (hflag.symm.trans ready)
  | timeOut phase waits due waiter =>
    -- the deadline has come, and it has not been passed
    cases hphase.symm.trans phase
    rw [patience?_eq_of_timeout e hpatience]
    exact .fail waiter (Nat.le_antisymm hinTime due) (hflag.symm.trans waits)
  | undo subscriber cause =>
    rcases cause with ⟨deadline', due, phase, waits, rfl⟩ | ⟨watched, phase, -⟩
    · cases hphase.symm.trans phase
      rw [patience?_eq_of_timeout e hpatience]
      exact .undo subscriber (Nat.le_antisymm hinTime due) (hflag.symm.trans waits)
    · cases hphase.symm.trans phase
  | crash phase =>
    rcases phase with ⟨watched, phase⟩ | ⟨error, watched, phase⟩
    · cases hphase.symm.trans phase
    · cases hphase.symm.trans phase
  | subscribed phase | conclude phase | restored phase | join phase =>
    cases hphase.symm.trans phase

/-- A deadline is one of the times that tasks wait for. -/
theorem mem_deadlines_of_awaiting (hcall : e.calls[c]? = some call)
    (hphase : call.phase = .awaiting deadline) : deadline ∈ e.deadlines := by
  refine List.mem_append_right _ (List.mem_filterMap.2 ⟨call, List.mem_of_getElem? hcall, ?_⟩)
  rw [hphase]

/-- Time does not pass the deadline of a call that waits. -/
theorem now_le_of_step (hstep : e.step action = some e') (hcall : e.calls[c]? = some call)
    (hphase : call.phase = .awaiting deadline) (hinTime : e.now ≤ deadline) :
    e'.now ≤ deadline := by
  by_cases htick : ∃ time, action = .tick time
  · obtain ⟨time, rfl⟩ := htick
    -- time moves no further than to the earliest deadline
    cases stepMove_of_step hstep with
    | tick idle later due => exact due deadline (mem_deadlines_of_awaiting hcall hphase)
  · obtain ⟨more, -, -, -, hnow⟩ := notes_of_step hstep
    rw [hnow fun time heq => htick ⟨time, heq⟩]
    exact hinTime

/-- A call that waits goes on waiting in a step, or stops to wait in it. -/
theorem waiting_step (he : Reachable settings credential e) (hstep : e.step action = some e')
    (hcall : e.calls[c]? = some call) (hphase : call.phase = .awaiting deadline)
    (hinTime : e.now ≤ deadline) (hpatience : call.request.patience? settings = some patience) :
    (∃ call', e'.calls[c]? = some call' ∧ call'.request = call.request ∧
      call'.registered = call.registered ∧ call'.phase = .awaiting deadline ∧
      e'.now ≤ deadline) ∨
    ∃ preferAnswer, action = .resume (.call c) preferAnswer ∧
      WaitOver e c call.registered patience deadline e' := by
  have hlater := now_le_of_step hstep hcall hphase hinTime
  obtain ⟨call', hcall', hrequest, hregistered, hchange⟩ := callStep_of_step hstep hcall
  cases hchange with
  | keep phase =>
    exact .inl ⟨call', hcall', hrequest, hregistered, phase.trans hphase, hlater⟩
  | answer answer phase =>
    -- a call that waits for the greeting is asked nothing
    rw [hphase] at phase
    exact .inl ⟨call', hcall', hrequest, hregistered, phase, hlater⟩
  | move preferAnswer move =>
    rw [← settings_of_reachable he] at hpatience
    exact .inr ⟨preferAnswer, rfl,
      waitOver_of_callMove (sessionInv_of_reachable he).ready hphase hinTime hpatience move⟩

/-- A call that waits still waits at the end of a run, or has stopped to wait in one of its
steps. -/
theorem waiting_run (he : Reachable settings credential e) (hrun : e.run actions = some e')
    (hcall : e.calls[c]? = some call) (hphase : call.phase = .awaiting deadline)
    (hinTime : e.now ≤ deadline) (hpatience : call.request.patience? settings = some patience) :
    (∃ call', e'.calls[c]? = some call' ∧ call'.phase = .awaiting deadline ∧
      e'.now ≤ deadline) ∨
    ∃ e₁ preferAnswer e₂ call₁,
      e.Passes actions e' e₁ (.resume (.call c) preferAnswer) e₂ ∧
      e₁.calls[c]? = some call₁ ∧ call₁.phase = .awaiting deadline ∧
      WaitOver e₁ c call.registered patience deadline e₂ := by
  -- induction on the actions: as long as the call waits, its deadline has not been passed
  induction actions generalizing e call with
  | nil =>
    cases hrun
    exact .inl ⟨call, hcall, hphase, hinTime⟩
  | cons action actions ih =>
    obtain ⟨e₁, hstep, hrest⟩ := Option.bind_eq_some_iff.1 hrun
    rcases waiting_step he hstep hcall hphase hinTime hpatience with
      ⟨call₁, hcall₁, hrequest, hregistered, hphase₁, hinTime₁⟩ | ⟨preferAnswer, rfl, hover⟩
    · rw [← hrequest] at hpatience
      rcases ih (he.step action hstep) hrest hcall₁ hphase₁ hinTime₁ hpatience with
        hstill | ⟨f₁, preferAnswer, f₂, call₂, hpasses, hcall₂, hphase₂, hover⟩
      · exact .inl hstill
      · rw [hregistered] at hover
        exact .inr ⟨f₁, preferAnswer, f₂, call₂, hpasses.cons hstep, hcall₂, hphase₂, hover⟩
    · exact .inr ⟨e, preferAnswer, e₁, call, ⟨hstep, [], actions, rfl, rfl, hrest⟩, hcall, hphase,
        hover⟩

/-- Where nothing can go on, a call that waits has no session and has not reached its deadline. -/
theorem rests_of_awaiting (hflag : e.ready = e.session.ready) (hquiet : Quiescent e)
    (hcall : e.calls[c]? = some call) (hphase : call.phase = .awaiting deadline) :
    e.session.ready = false ∧ e.now < deadline := by
  have hnone : e.resumeCall c true = none := hquiet (.call c) true
  simp only [resumeCall, hcall, hphase, continueAwaiting] at hnone
  split at hnone
  · -- with a session the call could go on
    split at hnone <;> cases hnone
  · rename_i hready
    split at hnone
    · split at hnone <;> cases hnone
    · rename_i hdue
      rw [hflag] at hready
      exact ⟨by simpa using hready, Nat.lt_of_not_le hdue⟩

/-! ### After the wait -/

/-- A call that does not wait does not begin to. -/
theorem not_awaiting_of_run (hrun : e.run actions = some e') (hcall : e.calls[c]? = some call)
    (hnot : ∀ deadline, call.phase ≠ .awaiting deadline) (hcall' : e'.calls[c]? = some call') :
    ∀ deadline, call'.phase ≠ .awaiting deadline := by
  let goneOn (e : Engine) : Prop :=
    ∃ call, e.calls[c]? = some call ∧ ∀ deadline, call.phase ≠ .awaiting deadline
  have hgone : goneOn e' := by
    refine run_invariant (p := goneOn) (q := fun _ => True) hrun (fun _ _ => trivial)
      (fun {e₁ e₂ action} _ hstep hbefore => ?_) ⟨call, hcall, hnot⟩
    obtain ⟨call₁, hcall₁, hnot₁⟩ := hbefore
    obtain ⟨call₂, hcall₂, -, -, hchange⟩ := callStep_of_step hstep hcall₁
    refine ⟨call₂, hcall₂, fun deadline heq => ?_⟩
    cases hchange with
    | keep phase => exact hnot₁ deadline (phase.symm.trans heq)
    | answer answer phase =>
      rw [heq] at phase
      cases hold : call₁.phase <;> rw [hold] at phase <;> cases phase
      exact hnot₁ deadline hold
    | move preferAnswer move =>
      obtain ⟨phase, hgoes, hphase⟩ := goes_of_callMove e₁ c move
      cases (hgoes.self hcall₁).symm.trans hcall₂
      exact hphase deadline heq
  obtain ⟨call₁, hcall₁, hnot₁⟩ := hgone
  cases hcall'.symm.trans hcall₁
  exact hnot₁

/-- A call that goes on has not ended. -/
theorem not_ended_of_callMove (h : CallMove e c call e') (outcome : Outcome) :
    call.phase ≠ .ended outcome := by
  intro hphase
  cases h with
  | undo subscriber cause =>
    rcases cause with ⟨deadline, -, phase, -⟩ | ⟨watched, phase, -⟩
    · cases hphase.symm.trans phase
    · cases hphase.symm.trans phase
  | crash phase =>
    rcases phase with ⟨watched, phase⟩ | ⟨error, watched, phase⟩
    · cases hphase.symm.trans phase
    · cases hphase.symm.trans phase
  | announce phase | greeted phase | timeOut phase | subscribed phase | conclude phase
  | restored phase | join phase => cases hphase.symm.trans phase

/-- A call that has ended stays as it is. -/
theorem ended_of_run {outcome : Outcome} (hrun : e.run actions = some e')
    (hcall : e.calls[c]? = some call) (hended : call.phase = .ended outcome)
    (hcall' : e'.calls[c]? = some call') : call'.phase = .ended outcome := by
  by_contra hleft
  obtain ⟨e₁, preferAnswer, e₂, call₁, -, -, hphase, -, hmove⟩ :=
    exists_move_of_leaves (p := (· = .ended outcome)) (by rintro _ answer rfl; rfl) hrun hcall
      hended hcall' hleft
  exact not_ended_of_callMove hmove outcome hphase

/-- After its wait a call waits no more. -/
theorem WaitOver.not_awaiting {registered : Option (String × ListenerId)}
    (h : WaitOver e c registered patience deadline e') (hcall : e.calls[c]? = some call) :
    ∃ call', e'.calls[c]? = some call' ∧ ∀ deadline, call'.phase ≠ .awaiting deadline := by
  cases h with
  | done waiter ready => exact ⟨_, (goes_endCall e c _).self hcall, nofun⟩
  | fail waiter due waits => exact ⟨_, (goes_endCall e c _).self hcall, nofun⟩
  | @goOn key id subscriber ready =>
    obtain ⟨phase, hgoes, hnew⟩ := goes_announceFor e c (fun e => e.endCall c (.subscribed key id))
      ⟨_, goes_endCall e c (.subscribed key id), rfl⟩
    refine ⟨_, hgoes.self hcall, ?_⟩
    rcases hnew with rfl | rfl <;> exact nofun
  | undo subscriber due waits =>
    obtain ⟨phase, hgoes, hresult⟩ := goes_rollBack e c _ _ _
    refine ⟨_, hgoes.self hcall, ?_⟩
    rintro deadline rfl
    cases hresult

/-- A call that just waits ends with its wait: well exactly if the session is ready. -/
theorem WaitOver.ended (h : WaitOver e c none patience deadline e')
    (hcall : e.calls[c]? = some call) :
    ∃ call', e'.calls[c]? = some call' ∧ call'.phase = .ended
      (if e.session.ready then .done
        else .failed (.connectTimeout e.settings.url patience.toMillis)) := by
  cases h with
  | done waiter ready =>
    rw [if_pos ready]
    exact ⟨_, (goes_endCall e c _).self hcall, rfl⟩
  | fail waiter due waits =>
    rw [if_neg (by rw [waits]; exact Bool.false_ne_true)]
    exact ⟨_, (goes_endCall e c _).self hcall, rfl⟩
  | goOn subscriber | undo subscriber => cases subscriber

end Steps

/-! ### Where a ready session comes from -/

/-- In a step of a worker a session begins. -/
structure Greeted (e e' : Engine) (w : Nat) : Prop where
  /-- There has been none. -/
  before : e.session.ready = false
  /-- There is one now. -/
  after : e'.session.ready = true
  /-- The worker has read a greeting with its client id from its stream. -/
  greeting : ∃ serial record,
    recordsRead w serial e'.events = recordsRead w serial e.events ++ [record] ∧
    record.handshake? = some e'.session.clientId

/-- Between two states a worker other than the first ones that were started has read the greeting of
a session. -/
def GreetedSince (e e' : Engine) (first : Nat) : Prop :=
  ∃ actions e₁ w preferAnswer e₂, e.Passes actions e' e₁ (.resume (.worker w) preferAnswer) e₂ ∧
    first ≤ w ∧ Greeted e₁ e₂ w

namespace Core

variable {c c' : Core}

/-- No caller begins a session. -/
theorem CallerMove.not_ready (h : CallerMove c c') (hnot : c.session.ready = false) :
    c'.session.ready = false := by
  cases h with
  | keep | idle vacant => exact hnot
  | start ended | retire occupied => rfl

/-- Only a greeting begins a session. -/
theorem WorkerStep.greeting {w : Nat} {k : Worker} (h : WorkerStep c w k c')
    (hnot : c.session.ready = false) (hready : c'.session.ready = true) :
    k.cancelled = false ∧ ∃ serial record,
      recordsRead w serial c'.log = recordsRead w serial c.log ++ [record] ∧
      record.handshake? = some c'.session.clientId := by
  cases h with
  | @announce live body phase record after next clientId greeting topics =>
    exact ⟨live, body.serial, record, recordsRead_read (by simp [Event.readBy?]), greeting⟩
  | @establish live body phase record after next clientId greeting told =>
    exact ⟨live, body.serial, record,
      recordsRead_read (List.forall_mem_map.2 fun _ _ => rfl), greeting⟩
  | lose => cases hready
  -- the other steps keep the session, and there has been none
  | finish | attempt | read | crash | take | deliver | greet => cases hnot.symm.trans hready

end Core

section Greeting

variable {settings : Settings} {credential : Option String} {e e' : Engine} {action : Action}
  {actions : List Action}

/-- A session begins in a step of the worker in the slot. -/
theorem greeted_of_step (hinv : e.core.SlotInv) (hstep : e.step action = some e')
    (hnot : e.session.ready = false) (hready : e'.session.ready = true) :
    ∃ w preferAnswer, action = .resume (.worker w) preferAnswer ∧ e.slot = some w ∧
      Greeted e e' w := by
  have hcaller {e' : Engine} (h : Core.CallerMove e.core e'.core)
      (hready : e'.session.ready = true) : False := by
    cases (h.not_ready hnot).symm.trans hready
  cases stepMove_of_step hstep with
  | @worker w k _ present running move preferAnswer =>
    have hmove := workerStep_of_workerMove hinv present running move
    obtain ⟨live, serial, record, hread, hgreeting⟩ := hmove.greeting hnot hready
    rw [recordsRead_core, recordsRead_core] at hread
    exact ⟨w, preferAnswer, rfl, (hinv.slot_of_live present running live).1, hnot, hready, serial,
      record, hread, hgreeting⟩
  | start alive request => exact (hcaller (callerMove_beginCall e request true) hready).elim
  | @closeHandle c key id handle =>
    exact (hcaller (callerMove_beginCall (e.useHandle c) _ false) hready).elim
  | call present move => exact (hcaller (callerMove_of_callMove e move) hready).elim
  | dropWorker alive free taken =>
    obtain ⟨hslot, hcore⟩ := core_of_takeWorker _ taken
    exact (hcaller (by rw [hcore]; exact .retire hslot) hready).elim
  | @answer task => cases task <;> cases hnot.symm.trans hready
  | arrive | finish | tick | dropClient | setCredential | observeConnect | observeDisconnect =>
    cases hnot.symm.trans hready

/-- A session that has begun in the course of a run is that of a greeting, read by a worker that was
not out of the slot before. -/
theorem greetedSince_of_ready (he : Reachable settings credential e)
    (hrun : e.run actions = some e') (hnot : e.session.ready = false) {first : Nat}
    (hretired : ∀ w < first, e.Retired w) (hready : e'.session.ready = true) :
    e.GreetedSince e' first := by
  obtain ⟨e₁, action, e₂, hpasses, hbefore, hafter⟩ :=
    exists_passes (p := fun e => e.session.ready = true) hrun (by simp [hnot]) hready
  obtain ⟨before, -, -, hreach, -⟩ := hpasses.split
  obtain ⟨w, preferAnswer, rfl, hslot, hgreeted⟩ :=
    greeted_of_step (slotInv_of_reachable (hpasses.reachable he)) hpasses.step
      (by simpa using hbefore) hafter
  refine ⟨actions, e₁, w, preferAnswer, e₂, hpasses, ?_, hgreeted⟩
  -- one of the first workers would still be out of the slot
  by_contra hfirst
  exact (silent_run he (hretired w (Nat.lt_of_not_le hfirst)) hreach).retired.out hslot

end Greeting

/-! ### The beginning of a wait -/

/-- A call begins to wait for the greeting in a state that may differ from the one before only in
what is not the business of workers. -/
structure BeginsToWait (e e' : Engine) (request : Request) (patience : Duration) : Prop where
  /-- The call is there, with its deadline. -/
  call : ∃ call, e'.calls[e.calls.length]? = some call ∧ call.request = request ∧
    call.phase = .awaiting (e.now + patience.timerMillis)
  /-- No time passes. -/
  now : e'.now = e.now
  /-- If no worker is running, one is started. -/
  core : e.hasWorker = false → e'.core = e.core.start

section Begin

variable {settings : Settings} {credential : Option String} {e : Engine} {request : Request}
  {patience : Duration}

/-- If no worker is running, one is started. -/
theorem core_ensureWorker (hworker : e.hasWorker = false) : e.ensureWorker.core = e.core.start := by
  have hstart : e.ensureWorker = e.startWorker :=
    if_neg (by rw [hworker]; exact Bool.false_ne_true)
  rw [hstart, core_startWorker]

/-- A call that waits for the greeting sets its deadline as it begins. If no worker is running, it
starts one, which begins without a session. -/
theorem beginsToWait_beginCall (hpatience : request.patience? e.settings = some patience)
    (borrows : Bool) : BeginsToWait e (e.beginCall request borrows) request patience := by
  cases request with
  | subscribe topic options listener =>
    simp only [Request.patience?] at hpatience
    split at hpatience
    · cases hpatience
    · rename_i htopic
      cases hpatience
      have hregistered := notes_withRegistration e topic options listener
      obtain ⟨more, hmore, -⟩ := notes_ensureWorker (e.withRegistration topic options listener)
      have hnotes := hregistered.trans hmore
      have hadded := getElem?_beginCall_subscribe e htopic options listener borrows
      simp only [hnotes.now, hnotes.settings] at hadded
      refine ⟨⟨_, hadded, rfl, ?_⟩, ?_, fun hworker => ?_⟩
      · rw [Duration.timerMillis_ofMillis]
      · rw [beginCall_subscribe_eq e htopic]
        exact hnotes.now
      · rw [beginCall_subscribe_eq e htopic, core_addCall,
          core_ensureWorker (e := e.withRegistration topic options listener) hworker,
          core_withRegistration]
  | ensureConnected patience =>
    cases hpatience
    obtain ⟨more, hnotes, -⟩ := notes_ensureWorker e
    have hadded := getElem?_beginCall_ensureConnected e patience borrows
    rw [hnotes.now] at hadded
    exact ⟨⟨_, hadded, rfl, rfl⟩, hnotes.now, core_ensureWorker⟩
  | disconnect | remove => cases hpatience

/-- A call that begins to wait where no worker is running puts a new one into the slot, and there is
no session. All earlier workers are out. -/
theorem BeginsToWait.starts {e' : Engine} (h : BeginsToWait e e' request patience)
    (hworker : e.hasWorker = false) :
    e'.slot = some e.workers.length ∧ e'.session = .none ∧
      ∀ w < e.workers.length, e'.Retired w := by
  have hcore := h.core hworker
  have hslot : e'.slot = some e.workers.length := congrArg Core.slot hcore
  have hworkers : e'.workers.length = (e.core.start).workers.length :=
    congrArg (fun c => c.workers.length) hcore
  refine ⟨hslot, congrArg Core.session hcore, fun w hw => ⟨?_, ?_⟩⟩
  · rw [hworkers, Core.start, List.length_append]
    exact Nat.lt_of_lt_of_le hw (Nat.le_add_right _ _)
  · rw [hslot]
    intro heq
    cases heq
    exact absurd hw (Nat.lt_irrefl _)

end Begin

/-- The worker of a call that waits reads a greeting and loses its stream before the call goes on,
and reads another greeting after its pause. -/
def greetedTwice : List Action :=
  openingActions 1 1 (greetingBytes "c2") ++
    [.resume (.worker 1) true, .answer (.worker 1) .success, .resume (.worker 1) true, .finish 1,
      .resume (.worker 1) true, .tick 1000] ++
    openingActions 1 2 (greetingBytes "c3") ++ [.resume (.worker 1) true, .resume (.call 1) true]

/-- Whether a call has ended, and well. -/
def Call.Phase.isDone : Call.Phase → Bool
  | .ended .done => true
  | _ => false

theorem eq_ended_of_isDone {phase : Call.Phase} (h : phase.isDone = true) :
    phase = .ended .done := by
  unfold Call.Phase.isDone at h
  split at h
  · rfl
  · cases h

end TopicStream.Engine
