import TopicStream.Proofs.Engine.Teardown

/-!
# The state of the connection is the state of the worker

The state of the connection is written in two ways: by the worker of the current epoch, with each
step to a new phase, and by a call that has waited for the end of a worker, which declares the
connection idle if it finds the slot empty. A worker that is put into the slot writes nothing before
its first attempt, and a worker that is taken out leaves what it has written last. So there are
moments at which the state tells of a worker that has gone; but then a call waits for that worker
that will put it right (`SlotReported`).

## Main results

* `Core.reported_of_reachable`: what is told of the worker in the slot;
* `slotReported_of_run`: what is told of an empty slot;
* `connection_tells_phase`: both together, where nothing can go on.
-/

namespace TopicStream.Engine

open Subscription

/-! ### The worker in the slot -/

/-- The state of the connection that goes with a phase, if there is one. A worker that is about to
begin has not reported yet, and one that has ended reports nothing any more. -/
def Worker.Phase.connection? : Worker.Phase → Option Connection
  | .opening _ => some .connecting
  | .reading _ | .greeting .. => some .streaming
  | .pausing _ => some .reconnecting
  | .starting | .finished | .crashed => none

theorem connection?_withAnswer (answer : Answer) (phase : Worker.Phase) :
    (phase.withAnswer answer).connection? = phase.connection? := by
  cases phase <;> rfl

theorem connection?_mapBody (f : Body → Body) (phase : Worker.Phase) :
    (phase.mapBody f).connection? = phase.connection? := by
  cases phase <;> rfl

namespace Core

/-- A phase is that of a worker that has not ended in good order, and the connection is as the phase
says. -/
structure Tells (connection : Connection) (phase : Worker.Phase) : Prop where
  /-- The worker has not ended in good order. -/
  unfinished : phase ≠ .finished
  /-- If a state goes with the phase, it is that of the connection. -/
  connection : ∀ state, phase.connection? = some state → connection = state

/-- The connection is as the worker in the slot has it. -/
def Reported (c : Core) : Prop :=
  ∀ (w : Nat) (k : Worker), c.slot = some w → c.workers[w]? = some k → Tells c.connection k.phase

variable {c c' : Core}

theorem Tells.withAnswer {connection : Connection} {phase : Worker.Phase}
    (h : Tells connection phase) (answer : Answer) :
    Tells connection (phase.withAnswer answer) := by
  constructor
  · have hunfinished := h.unfinished
    cases phase with
    | finished => exact absurd rfl hunfinished
    | _ => exact nofun
  · rw [connection?_withAnswer]
    exact h.connection

theorem Tells.mapBody {connection : Connection} {phase : Worker.Phase}
    (h : Tells connection phase) (f : Body → Body) : Tells connection (phase.mapBody f) := by
  constructor
  · have hunfinished := h.unfinished
    cases phase with
    | finished => exact absurd rfl hunfinished
    | _ => exact nofun
  · rw [connection?_mapBody]
    exact h.connection

theorem Reported.callerMove (h : c.Reported) (hmove : CallerMove c c') : c'.Reported := by
  intro w k hslot hk
  cases hmove with
  | keep => exact h w k hslot hk
  | start ended =>
    -- the new worker has not begun yet
    cases hslot
    simp only [start, List.getElem?_concat_length, Option.some.injEq] at hk
    subst hk
    constructor
    · intro hfinished
      cases hfinished
    · intro state hstate
      cases hstate
  | retire occupied => cases hslot
  | idle vacant => cases vacant.symm.trans hslot

theorem Reported.feed (h : c.Reported) (hslot : c'.slot = c.slot)
    (hconnection : c'.connection = c.connection) {serial : Nat} {f : Body → Body}
    (hworkers : c'.workers = Core.feed c.workers serial f) : c'.Reported := by
  intro w k' hs hk'
  rw [hworkers] at hk'
  rw [hslot] at hs
  rw [hconnection]
  obtain ⟨k, hk, ⟨-, rfl⟩ | ⟨-, rfl⟩⟩ := getElem?_of_feed hk'
  · exact (h w k hs hk).mapBody f
  · exact h w k' hs hk

theorem Reported.supply (h : c.Reported) (hsupply : Supply c c') : c'.Reported := by
  cases hsupply with
  | answer i answer =>
    intro w k' hs hk'
    rw [List.getElem?_modify] at hk'
    obtain ⟨k, hk, rfl⟩ := Option.map_eq_some_iff.1 hk'
    have htells := h w k hs hk
    split
    · exact htells.withAnswer answer
    · exact htells
  | arrive serial item isRead => exact h.feed rfl rfl rfl
  | finish serial isRead => exact h.feed rfl rfl rfl

/-- The worker in the slot goes to a phase and sees to it that the connection is as that says. -/
theorem reported_of_setPhase {w : Nat} {phase : Worker.Phase} (hslot : c.slot = some w)
    (hslot' : c'.slot = c.slot) (hworkers : c'.workers = (c.setPhase w phase).workers)
    (htells : Tells c'.connection phase) : c'.Reported := by
  intro i k' hs hk'
  rw [hslot', hslot] at hs
  cases hs
  rw [hworkers] at hk'
  rcases getElem?_of_setPhase hk' with ⟨-, hphase, -⟩ | ⟨hne, -⟩
  · rw [hphase]
    exact htells
  · exact absurd rfl hne

theorem Reported.workerStep {w : Nat} {k : Worker} (h : c.Reported) (hinv : c.SlotInv)
    (hk : c.workers[w]? = some k) (hover : k.phase.isOver = false)
    (hstep : WorkerStep c w k c') : c'.Reported := by
  have hslot (live : k.cancelled = false) : c.slot = some w := (hinv.slot_of_live hk hover live).1
  -- a worker that goes on with its stream leaves the connection streaming
  have hstreams (live : k.cancelled = false) (hphase : k.phase.connection? = some .streaming)
      {phase : Worker.Phase} (hunfinished : phase ≠ .finished)
      (hphase' : phase.connection? = some .streaming) : Tells c.connection phase := by
    refine ⟨hunfinished, fun state hstate => ?_⟩
    cases hphase'.symm.trans hstate
    exact (h w k (hslot live) hk).connection _ hphase
  cases hstep with
  | finish cancelled =>
    -- the worker that ends is not the one in the slot
    intro i k' hs hk'
    obtain ⟨k₁, hk₁, -, hlive⟩ := hinv.slot_some i hs
    rcases getElem?_of_setPhase hk' with ⟨rfl, -, -⟩ | ⟨-, hold⟩
    · cases hk.symm.trans hk₁
      rw [hlive] at cancelled
      cases cancelled
    · exact h i k' hs hold
  -- with these phases the worker writes the state that goes with them
  | attempt live phase headers =>
    exact reported_of_setPhase (hslot live) rfl rfl ⟨nofun, fun _ hstate => by cases hstate; rfl⟩
  | read live phase =>
    exact reported_of_setPhase (hslot live) rfl rfl ⟨nofun, fun _ hstate => by cases hstate; rfl⟩
  | lose live phase resumes told =>
    exact reported_of_setPhase (hslot live) rfl rfl ⟨nofun, fun _ hstate => by cases hstate; rfl⟩
  | crash live phase => exact reported_of_setPhase (hslot live) rfl rfl ⟨nofun, nofun⟩
  | take live phase | deliver live phase | announce live phase | establish live phase
  | greet live phase =>
    exact reported_of_setPhase (hslot live) rfl rfl
      (hstreams live (by rw [phase]; rfl) nofun rfl)

theorem reported_of_reachable {settings : Settings} {credential : Option String} {e : Engine}
    (he : Reachable settings credential e) : e.core.Reported := by
  induction he with
  | initial =>
    intro w k hslot
    cases hslot
  | step action before happens ih =>
    -- the step is that of a caller, something that comes in, or a step of a worker
    have hinv := slotInv_of_reachable before
    rcases coreStep_of_step hinv happens with hmove | hsupply | ⟨w, k, hk, hover, hstep⟩
    · exact ih.callerMove hmove
    · exact ih.supply hsupply
    · exact ih.workerStep hinv hk hover hstep

end Core

/-! ### An empty slot -/

/-- A call waits for the end of a worker. -/
def Joining (e : Engine) : Prop :=
  ∃ (c : Nat) (call : Call) (w : Nat) (outcome : Outcome),
    e.calls[c]? = some call ∧ call.phase = .joining w outcome

/-- If the slot is empty, the connection is idle, or a call waits for the end of a worker. -/
def SlotReported (e : Engine) : Prop :=
  e.slot = none → e.connection = .idle ∨ e.Joining

section Vacating

variable {e e' : Engine} {c w : Nat} {call : Call} {outcome : Outcome}

theorem Goes.joining (h : Goes e e' c (.joining w outcome)) (hcall : e.calls[c]? = some call) :
    e'.Joining :=
  ⟨c, _, w, outcome, h.self hcall, rfl⟩

/-- A call that tears the connection down waits for the worker that it finds in the slot. -/
theorem goes_beginDisconnect_of_occupied (hslot : e.slot = some w) (c : Nat) (outcome : Outcome) :
    Goes e (e.beginDisconnect c outcome) c (.joining w outcome) := by
  unfold beginDisconnect
  split
  · rename_i w' e' htake
    cases hslot.symm.trans (core_of_takeWorker e htake).1
    rw [Goes, setCall, setCall, calls_of_takeWorker e htake]
  · rename_i htake
    cases hslot.symm.trans (slot_eq_none_of_takeWorker htake)

theorem joining_of_concludeRemoval (hcall : e.calls[c]? = some call) (hslot : e.slot = some w)
    (hvacated : (e.concludeRemoval c outcome).slot = none) :
    (e.concludeRemoval c outcome).Joining := by
  rw [slot_concludeRemoval] at hvacated
  split at hvacated
  · rename_i hempty
    rw [concludeRemoval_of_isEmpty e hempty]
    exact (goes_beginDisconnect_of_occupied hslot c outcome).joining hcall
  · cases hslot.symm.trans hvacated

/-- A call that goes on and takes the worker out of the slot waits for its end. -/
theorem joining_of_callMove (h : CallMove e c call e') (hcall : e.calls[c]? = some call)
    (hslot : e.slot = some w) (hvacated : e'.slot = none) : e'.Joining := by
  cases h with
  | announce phase ready subscriber =>
    -- neither the announcement nor the end of the call concerns the slot
    unfold announceFor at hvacated
    split at hvacated
    · rename_i e' hannounce
      cases hslot.symm.trans ((slot_of_announce? e hannounce).symm.trans hvacated)
    · cases hslot.symm.trans hvacated
  | @undo key id error subscriber cause =>
    rw [slot_rollBack] at hvacated
    split at hvacated
    · rename_i hempty
      let e₁ := { e with registry := (e.registry.removeListener key id).2 }
      rw [rollBack_of_isEmpty e hempty]
      exact (goes_beginDisconnect_of_occupied (e := e₁) hslot c _).joining hcall
    · cases hslot.symm.trans hvacated
  | conclude phase remover cause => exact joining_of_concludeRemoval hcall hslot hvacated
  | join phase ended =>
    rw [slot_concludeDisconnect] at hvacated
    cases hslot.symm.trans hvacated
  | greeted | timeOut | subscribed | restored | crash => cases hslot.symm.trans hvacated

/-- A call that begins and takes the worker out of the slot waits for its end. -/
theorem joining_of_beginCall {request : Request} {borrows : Bool} (hslot : e.slot = some w)
    (hvacated : (e.beginCall request borrows).slot = none) :
    (e.beginCall request borrows).Joining := by
  -- a call that sees to it that a worker is running leaves the slot full
  have hfull {e₁ : Engine} (hnone : e₁.ensureWorker.slot = none) : False := by
    have hsome := isSome_slot_ensureWorker e₁
    rw [hnone] at hsome
    cases hsome
  cases request with
  | subscribe topic options listener =>
    simp only [beginCall] at hvacated
    split at hvacated
    · cases hslot.symm.trans hvacated
    · exact (hfull hvacated).elim
  | ensureConnected patience => exact (hfull hvacated).elim
  | disconnect =>
    let e₀ := e.addCall .disconnect borrows none (.ended .done)
    exact (goes_beginDisconnect_of_occupied (e := e₀) hslot e.calls.length .done).joining
      (getElem?_addCall_length e _ _ _ _)
  | remove what =>
    rw [beginCall_remove_eq] at hvacated ⊢
    -- a call that has something to announce leaves the worker in the slot
    unfold announceFor at hvacated ⊢
    split at hvacated
    · rename_i e' hannounce
      have hkept : e'.slot = e.slot := slot_of_announce? (e.withRemoval what borrows) hannounce
      cases hslot.symm.trans (hkept.symm.trans hvacated)
    · exact joining_of_concludeRemoval (getElem?_withRemoval e what borrows) hslot hvacated

/-- A step that takes the worker out of the slot is that of a call that waits for its end, unless it
gives up the client. -/
theorem joining_of_vacated {action : Action} (hstep : e.step action = some e')
    (hkept : action ≠ .dropClient) (hslot : e.slot = some w) (hvacated : e'.slot = none) :
    e'.Joining := by
  cases stepMove_of_step hstep with
  | start alive request => exact joining_of_beginCall hslot hvacated
  | @closeHandle c key id handle =>
    exact joining_of_beginCall (e := e.useHandle c) hslot hvacated
  | worker present running move =>
    cases hslot.symm.trans ((frame_of_workerMove move).slot.symm.trans hvacated)
  | call present move => exact joining_of_callMove move present hslot hvacated
  | @answer task awaited answer => cases task <;> cases hslot.symm.trans hvacated
  | dropClient | dropWorker => exact absurd rfl hkept
  | arrive | finish | tick | setCredential | observeConnect | observeDisconnect =>
    cases hslot.symm.trans hvacated

end Vacating

section Vacant

variable {settings : Settings} {credential : Option String} {e e' : Engine} {action : Action}
  {actions : List Action}

/-- Where the slot stays empty, nobody declares the connection anything but idle. -/
theorem connection_of_vacant (hinv : e.core.SlotInv) (hstep : e.step action = some e')
    (hslot : e.slot = none) (hslot' : e'.slot = none) :
    e'.connection = e.connection ∨ e'.connection = .idle := by
  rcases coreStep_of_step hinv hstep with hmove | hsupply | ⟨w, k, hk, hover, hmove⟩
  · generalize hcore : e'.core = c' at hmove
    have hconnection : e'.connection = c'.connection := congrArg Core.connection hcore
    rw [hconnection]
    cases hmove with
    | keep => exact .inl rfl
    | start ended => cases hslot'.symm.trans (congrArg Core.slot hcore)
    | retire occupied => cases hslot.symm.trans occupied
    | idle vacant => exact .inr rfl
  · generalize hcore : e'.core = c' at hsupply
    have hconnection : e'.connection = c'.connection := congrArg Core.connection hcore
    rw [hconnection]
    cases hsupply <;> exact .inl rfl
  · -- a worker that is not in the slot writes nothing when it ends
    have hretired : e.Retired w :=
      ⟨(List.getElem?_eq_some_iff.1 hk).1, by rw [hslot]; exact nofun⟩
    have hconnection := congrArg Core.connection
      (hmove.eq_of_cancelled (hretired.cancelled hinv hk hover))
    exact .inl hconnection

theorem slotReported_step (he : Reachable settings credential e) (h : e.SlotReported)
    (hstep : e.step action = some e') (hkept : action ≠ .dropClient) : e'.SlotReported := by
  intro hslot'
  cases hslot : e.slot with
  | some w => exact .inr (joining_of_vacated hstep hkept hslot hslot')
  | none =>
    rcases h hslot with hidle | ⟨c, call, w, outcome, hcall, hphase⟩
    · left
      rcases connection_of_vacant (slotInv_of_reachable he) hstep hslot hslot' with heq | hidle'
      · exact heq.trans hidle
      · exact hidle'
    · -- the call that waits goes on waiting, or declares the connection idle
      obtain ⟨call', hcall', -, -, hcallStep⟩ := callStep_of_step hstep hcall
      cases hcallStep with
      | keep phase => exact .inr ⟨c, call', w, outcome, hcall', phase.trans hphase⟩
      | answer answer phase =>
        rw [hphase] at phase
        exact .inr ⟨c, call', w, outcome, hcall', phase⟩
      | move preferAnswer move =>
        left
        cases move with
        | join =>
          have hvacant : e.slot.isNone = true := by rw [hslot]; rfl
          simp only [concludeDisconnect, if_pos hvacant]
          rfl
        | undo subscriber cause =>
          rcases cause with ⟨deadline, -, hawaits, -⟩ | ⟨watched, hannounces, -⟩
          · cases hphase.symm.trans hawaits
          · cases hphase.symm.trans hannounces
        | crash phase =>
          rcases phase with ⟨watched, hannounces⟩ | ⟨error, watched, hrestores⟩
          · cases hphase.symm.trans hannounces
          · cases hphase.symm.trans hrestores
        | announce phase | greeted phase | timeOut phase | subscribed phase | conclude phase
        | restored phase => cases hphase.symm.trans phase

/-- As long as the client is there, an empty slot is told of, or will be by a call. -/
theorem slotReported_of_run (hrun : (Engine.initial settings credential).run actions = some e)
    (hkept : ∀ action ∈ actions, action ≠ .dropClient) : e.SlotReported := by
  refine (run_invariant (p := fun e => Reachable settings credential e ∧ e.SlotReported) hrun
    hkept (fun hkept hstep hbefore => ?_) ⟨.initial, fun _ => .inl rfl⟩).2
  obtain ⟨hreach, hreported⟩ := hbefore
  exact ⟨hreach.step _ hstep, slotReported_step hreach hreported hstep hkept⟩

end Vacant

/-! ### Where nothing can go on -/

/-- A worker waits for something, with the state of the connection that goes with it. -/
inductive Waits (now : Nat) : Worker.Phase → Connection → Prop
  /-- It waits for the stream that it has asked for. -/
  | opening : Waits now (.opening none) .connecting
  /-- It waits for more of a stream. -/
  | reading (body : Body) : Waits now (.reading body) .streaming
  /-- It waits for the answer to the announcement that follows a greeting. -/
  | greeting (clientId : String) (body : Body) : Waits now (.greeting clientId body none) .streaming
  /-- It waits for the end of its pause. -/
  | pausing {resumes : Nat} (later : now < resumes) : Waits now (.pausing resumes) .reconnecting

/-- The worker in the slot is in a phase of some kind. -/
def SlotPhase (e : Engine) (p : Worker.Phase → Prop) : Prop :=
  ∃ w k, e.slot = some w ∧ e.workers[w]? = some k ∧ p k.phase

section Quiescent

variable {settings : Settings} {credential : Option String} {e : Engine} {w : Nat} {k : Worker}

theorem slotPhase_iff (hslot : e.slot = some w) (hk : e.workers[w]? = some k)
    {p : Worker.Phase → Prop} : e.SlotPhase p ↔ p k.phase := by
  constructor
  · rintro ⟨w', k', hslot', hk', hp⟩
    cases hslot.symm.trans hslot'
    cases hk.symm.trans hk'
    exact hp
  · exact fun hp => ⟨w, k, hslot, hk, hp⟩

theorem not_slotPhase_of_vacant (hslot : e.slot = none) {p : Worker.Phase → Prop} :
    ¬ e.SlotPhase p := by
  rintro ⟨w, k, hslot', -⟩
  cases hslot.symm.trans hslot'

/-- Where nothing can go on, the worker in the slot waits or has crashed. -/
theorem waits_of_quiescent (he : Reachable settings credential e) (hquiet : Quiescent e)
    (hslot : e.slot = some w) (hk : e.workers[w]? = some k) (hrunning : k.phase ≠ .crashed) :
    Waits e.now k.phase e.connection := by
  have htells := Core.reported_of_reachable he w k hslot hk
  have hconnection {state : Connection} (hstate : k.phase.connection? = some state) :
      e.connection = state := htells.connection state hstate
  have hover : k.phase.isOver = false := by
    cases hphase : k.phase with
    | finished => exact absurd hphase htells.unfinished
    | crashed => exact absurd hphase hrunning
    | _ => rfl
  have hrests := continueWorker_of_quiescent hquiet hk hover
  -- a worker with an answer, or at the end of its pause, could go on
  cases hphase : k.phase with
  | starting =>
    rw [hphase] at hrests
    cases hrests
  | opening answer =>
    rw [hphase] at hrests
    rw [hconnection (by rw [hphase]; rfl)]
    cases answer with
    | none => exact .opening
    | some answer => cases answer <;> cases hrests
  | reading body =>
    rw [hconnection (by rw [hphase]; rfl)]
    exact .reading body
  | greeting clientId body answer =>
    rw [hphase] at hrests
    rw [hconnection (by rw [hphase]; rfl)]
    cases answer with
    | none => exact .greeting clientId body
    | some answer => cases answer <;> cases hrests
  | pausing resumes =>
    rw [hphase] at hrests
    rw [hconnection (by rw [hphase]; rfl)]
    refine .pausing (Nat.lt_of_not_le fun hdue => ?_)
    rw [continueWorker, if_pos hdue] at hrests
    cases hrests
  | finished | crashed =>
    rw [hphase] at hover
    cases hover

end Quiescent

/-- The state of the connection tells the truth wherever nothing can go on, after whatever run in
which the client is not given up, as long as the worker in the slot, if any, has not crashed: the
connection is idle exactly if there is no worker, connecting exactly if the worker waits for the
stream that it has asked for, streaming exactly if it waits for more of a stream or for the answer
to the announcement that follows a greeting, and reconnecting exactly if it waits for the end of its
pause. -/
theorem connection_tells_phase {settings : Settings} {credential : Option String}
    {actions : List Action} {e : Engine}
    (hrun : (Engine.initial settings credential).run actions = some e)
    (hkept : ∀ action ∈ actions, action ≠ .dropClient) (hquiet : Quiescent e)
    (hrunning : ¬ e.SlotPhase (· = .crashed)) :
    (e.connection = .idle ↔ e.slot = none) ∧
    (e.connection = .connecting ↔ e.SlotPhase (· = .opening none)) ∧
    (e.connection = .streaming ↔ e.SlotPhase fun phase =>
      (∃ body, phase = .reading body) ∨ ∃ clientId body, phase = .greeting clientId body none) ∧
    (e.connection = .reconnecting ↔ e.SlotPhase fun phase =>
      ∃ resumes, e.now < resumes ∧ phase = .pausing resumes) := by
  have he : Reachable settings credential e := Reachable.initial.run hrun
  have hinv := slotInv_of_reachable he
  cases hslot : e.slot with
  | none =>
    -- no call waits for a worker, so that the connection has been declared idle
    have hidle : e.connection = .idle := by
      rcases slotReported_of_run hrun hkept hslot with hidle | ⟨c, call, w, outcome, hcall, hphase⟩
      · exact hidle
      · exact absurd hphase
          (joining_of_quiescent hinv (joinsRetired_of_reachable he) hquiet hcall w outcome)
    simp only [hidle, not_slotPhase_of_vacant hslot]
    simp
  | some w =>
    obtain ⟨k, hk, -⟩ := hinv.slot_some w hslot
    have hwaits := waits_of_quiescent he hquiet hslot hk
      fun hcrashed => hrunning ((slotPhase_iff hslot hk).2 hcrashed)
    -- the four equivalences are read off the way in which the worker waits
    simp only [slotPhase_iff hslot hk]
    generalize k.phase = phase at hwaits
    generalize e.connection = connection at hwaits
    cases hwaits with
    | opening | reading | greeting => simp
    | pausing later => simp [later]

/-- Two disconnections and two calls that start a worker of their own overlap; the first
disconnection returns when a later worker is already connecting. That worker crashes and is replaced
by one that is refused the stream. -/
def overlappingTeardowns : List Action :=
  [.start (.subscribe "news" .none (.sample "first" false))] ++
    openingActions 0 0 (greetingBytes "c1") ++
    [.resume (.worker 0) true, .start .disconnect,
      .start (.subscribe "sport" .none (.sample "second" false)), .start .disconnect,
      .start (.ensureConnected ⟨9, 0⟩), .resume (.worker 2) true, .resume (.worker 0) true,
      .resume (.call 1) true, .answer (.worker 2) .crash, .resume (.worker 2) true,
      .resume (.worker 1) true, .resume (.call 3) true, .start (.ensureConnected ⟨9, 0⟩),
      .resume (.worker 3) true, .answer (.worker 3) (.failure (.other "refused")),
      .resume (.worker 3) true]

/-- The connection is reconnecting in the end, and so the worker waits for the end of its pause. -/
theorem connection_tells_phase_overlapping :
    ∃ e, (Engine.initial .sample none).run overlappingTeardowns = some e ∧ Quiescent e ∧
      ¬ e.SlotPhase (· = .crashed) ∧ e.connection = .reconnecting ∧
      e.SlotPhase fun phase => ∃ resumes, e.now < resumes ∧ phase = .pausing resumes := by
  obtain ⟨e, hrun, hend⟩ := exists_run (.initial .sample none) overlappingTeardowns
    (fun e => e.isQuiescent && e.hasWorker && e.connection = .reconnecting) (by decide +kernel)
  obtain ⟨hstate, hconnection⟩ := Bool.and_eq_true_iff.1 hend
  obtain ⟨hidle, hworker⟩ := Bool.and_eq_true_iff.1 hstate
  have hquiet : Quiescent e := quiescent_iff.2 hidle
  have hrunning : ¬ e.SlotPhase (· = .crashed) := by
    rintro ⟨w, k, hslot, hk, hcrashed⟩
    simp [hasWorker, isOver, hslot, hk, hcrashed, Worker.Phase.isOver] at hworker
  obtain ⟨-, -, -, hreconnecting⟩ :=
    connection_tells_phase hrun (by simp [overlappingTeardowns, openingActions]) hquiet hrunning
  exact ⟨e, hrun, hquiet, hrunning, of_decide_eq_true hconnection,
    hreconnecting.1 (of_decide_eq_true hconnection)⟩

end TopicStream.Engine
