import TopicStream.Proofs.Engine.Moves
import TopicStream.Proofs.Engine.Run

/-!
# What becomes of calls

A call changes only when it goes on itself or is handed an answer, and then in its phase alone: what
it was asked and what it has registered stay (`callStep_of_step`). A call that goes on leaves all
others where they are (`Goes.others`).

Once it is settled how a call ends, only a crash of the transport changes it (`Call.Phase.result?`).
-/

namespace TopicStream.Engine

open Subscription

/-- How a call ends unless it crashes, once that is settled. -/
def Call.Phase.result? : Call.Phase → Option Outcome
  | .awaiting _ | .announcing _ _ => none
  | .restoring error _ _ => some (.failed error)
  | .joining _ outcome | .ended outcome => some outcome

/-- A call goes on to a phase, and all other calls stay where they are. -/
def Goes (e e' : Engine) (c : Nat) (phase : Call.Phase) : Prop :=
  e'.calls = (e.setCall c phase).calls

section Goes

variable {e e' : Engine} {c : Nat} {phase : Call.Phase}

theorem Goes.others (h : Goes e e' c phase) {c' : Nat} (hne : c' ≠ c) :
    e'.calls[c']? = e.calls[c']? := by
  rw [h, setCall, List.getElem?_modify]
  simp only [if_neg hne.symm, id_map']

theorem Goes.self (h : Goes e e' c phase) {call : Call} (hcall : e.calls[c]? = some call) :
    e'.calls[c]? = some { call with phase } := by
  rw [h, setCall, List.getElem?_modify_eq, hcall]
  rfl

end Goes

/-! ### The calls under the elements of a step -/

section Elements

variable (e : Engine) (c : Nat)

@[simp]
theorem calls_ensureWorker : e.ensureWorker.calls = e.calls := by
  unfold ensureWorker
  split <;> rfl

theorem calls_of_takeWorker {call : Option Nat} {w : Nat} {e' : Engine}
    (h : e.takeWorker call = some (w, e')) : e'.calls = e.calls := by
  unfold takeWorker at h
  split at h
  · cases h
  · cases h
    rfl

theorem calls_of_announce? {task : Task} {e' : Engine} (h : e.announce? task = some e') :
    e'.calls = e.calls := by
  obtain ⟨due, -, rfl⟩ := Option.map_eq_some_iff.1 h
  rfl

theorem goes_endCall (outcome : Outcome) : Goes e (e.endCall c outcome) c (.ended outcome) := rfl

theorem goes_concludeDisconnect (outcome : Outcome) :
    Goes e (e.concludeDisconnect c outcome) c (.ended outcome) := by
  unfold concludeDisconnect
  split <;> rfl

theorem goes_beginDisconnect (outcome : Outcome) :
    ∃ phase, Goes e (e.beginDisconnect c outcome) c phase ∧ phase.result? = some outcome := by
  unfold beginDisconnect
  split
  · rename_i w e' htake
    refine ⟨.joining w outcome, ?_, rfl⟩
    rw [Goes, setCall, setCall, calls_of_takeWorker e htake]
  · exact ⟨.ended outcome, goes_concludeDisconnect e c outcome, rfl⟩

theorem goes_concludeRemoval (outcome : Outcome) :
    ∃ phase, Goes e (e.concludeRemoval c outcome) c phase ∧ phase.result? = some outcome := by
  unfold concludeRemoval
  split
  · exact goes_beginDisconnect e c outcome
  · exact ⟨.ended outcome, goes_endCall e c outcome, rfl⟩

/-- A call whose registration is undone ends with the error because of which it is. -/
theorem goes_rollBack (key : String) (id : ListenerId) (error : ClientError) :
    ∃ phase, Goes e (e.rollBack c key id error) c phase ∧
      phase.result? = some (.failed error) := by
  simp only [rollBack]
  split
  · exact goes_beginDisconnect _ c (.failed error)
  · split
    · rename_i e' hannounce
      refine ⟨.restoring error e.slot none, ?_, rfl⟩
      have hcalls := calls_of_announce? _ hannounce
      rw [Goes, setCall, setCall, hcalls]
    · exact ⟨.ended (.failed error), rfl, rfl⟩

/-- A call announces and waits for the answer, or goes on as it does without an announcement. -/
theorem goes_announceFor (otherwise : Engine → Engine) {p : Call.Phase → Prop}
    (h : ∃ phase, Goes e (otherwise e) c phase ∧ p phase) :
    ∃ phase, Goes e (e.announceFor c otherwise) c phase ∧
      (phase = .announcing e.slot none ∨ p phase) := by
  unfold announceFor
  split
  · rename_i e' hannounce
    refine ⟨.announcing e.slot none, ?_, .inl rfl⟩
    rw [Goes, setCall, setCall, calls_of_announce? e hannounce]
  · obtain ⟨phase, hgoes, hp⟩ := h
    exact ⟨phase, hgoes, .inr hp⟩

/-- A call that goes on waits for the greeting no more. -/
theorem goes_of_callMove {e' : Engine} {call : Call} (h : CallMove e c call e') :
    ∃ phase, Goes e e' c phase ∧ ∀ deadline, phase ≠ .awaiting deadline := by
  -- a phase in which it is settled how the call ends is not one of waiting
  have hsettled {e' : Engine} {outcome : Outcome}
      (h : ∃ phase, Goes e e' c phase ∧ phase.result? = some outcome) :
      ∃ phase, Goes e e' c phase ∧ ∀ deadline, phase ≠ .awaiting deadline := by
    obtain ⟨phase, hgoes, hresult⟩ := h
    refine ⟨phase, hgoes, ?_⟩
    rintro deadline rfl
    cases hresult
  cases h with
  | @announce deadline key id phase ready subscriber =>
    let otherwise (e : Engine) := e.endCall c (.subscribed key id)
    obtain ⟨phase, hgoes, hnew⟩ := goes_announceFor e c otherwise
      ⟨_, goes_endCall e c (.subscribed key id), rfl⟩
    refine ⟨phase, hgoes, ?_⟩
    rcases hnew with rfl | rfl <;> exact nofun
  | @undo key id error subscriber cause => exact hsettled (goes_rollBack e c key id error)
  | @conclude watched answer outcome phase remover cause =>
    exact hsettled (goes_concludeRemoval e c outcome)
  | join phase ended => exact ⟨_, goes_concludeDisconnect e c _, nofun⟩
  | greeted | timeOut | subscribed | restored | crash => exact ⟨_, goes_endCall e c _, nofun⟩

end Elements

/-! ### The beginning of a call -/

section Begin

variable {e : Engine}

theorem getElem?_addCall {c : Nat} {call : Call} (h : e.calls[c]? = some call) (request : Request)
    (borrows : Bool) (registered : Option (String × ListenerId)) (phase : Call.Phase) :
    (e.addCall request borrows registered phase).calls[c]? = some call := by
  unfold addCall
  rw [List.getElem?_append_left (List.getElem?_eq_some_iff.1 h).1]
  exact h

theorem getElem?_addCall_length (e : Engine) (request : Request) (borrows : Bool)
    (registered : Option (String × ListenerId)) (phase : Call.Phase) :
    (e.addCall request borrows registered phase).calls[e.calls.length]? =
      some ⟨request, borrows, registered, false, phase⟩ := by
  simp [addCall]

theorem getElem?_withRemoval (e : Engine) (what : Removal) (borrows : Bool) :
    (e.withRemoval what borrows).calls[e.calls.length]? =
      some ⟨.remove what, borrows, none, false, .ended .done⟩ :=
  getElem?_addCall_length { e with registry := what.apply e.registry } _ _ _ _

/-- The call of a subscription to a topic waits for the greeting. -/
theorem getElem?_beginCall_subscribe (e : Engine) {topic : String} (htopic : topic ≠ "")
    (options : Options) (listener : Listener) (borrows : Bool) :
    let e₁ := (e.withRegistration topic options listener).ensureWorker
    (e.beginCall (.subscribe topic options listener) borrows).calls[e.calls.length]? =
      some ⟨.subscribe topic options listener, borrows,
        some (options.topicKey topic, ⟨e.registry.issued + 1⟩), false,
        .awaiting (e₁.now + e₁.settings.connectTimeout)⟩ := by
  intro e₁
  rw [beginCall_subscribe_eq e htopic]
  -- neither the registration nor the worker that is started changes the number of the call
  have hlength : e₁.calls.length = e.calls.length :=
    congrArg List.length (calls_ensureWorker (e.withRegistration topic options listener))
  rw [← hlength]
  exact getElem?_addCall_length e₁ _ _ _ _

/-- A call that sees to the connection waits for the greeting. -/
theorem getElem?_beginCall_ensureConnected (e : Engine) (patience : Duration) (borrows : Bool) :
    (e.beginCall (.ensureConnected patience) borrows).calls[e.calls.length]? =
      some ⟨.ensureConnected patience, borrows, none, false,
        .awaiting (e.ensureWorker.now + patience.timerMillis)⟩ := by
  rw [← calls_ensureWorker e]
  exact getElem?_addCall_length e.ensureWorker _ _ _ _

/-- The beginning of a call leaves all earlier ones where they are. -/
theorem getElem?_beginCall {c : Nat} {call : Call} (h : e.calls[c]? = some call)
    (request : Request) (borrows : Bool) :
    (e.beginCall request borrows).calls[c]? = some call := by
  have hne : c ≠ e.calls.length := by
    have hlt := (List.getElem?_eq_some_iff.1 h).1
    omega
  cases request with
  | subscribe topic options listener =>
    simp only [beginCall]
    split
    · exact getElem?_addCall h _ _ _ _
    · refine getElem?_addCall ?_ _ _ _ _
      rw [calls_ensureWorker]
      exact h
  | ensureConnected patience =>
    refine getElem?_addCall ?_ _ _ _ _
    rw [calls_ensureWorker]
    exact h
  -- the call that is added goes on at once, which leaves the others where they are
  | disconnect =>
    let e₀ := e.addCall .disconnect borrows none (.ended .done)
    obtain ⟨phase, hgoes, -⟩ := goes_beginDisconnect e₀ e.calls.length .done
    exact (hgoes.others hne).trans (getElem?_addCall h _ _ _ _)
  | remove what =>
    let otherwise (e₁ : Engine) := e₁.concludeRemoval e.calls.length .done
    obtain ⟨phase, hgoes, -⟩ := goes_announceFor (e.withRemoval what borrows) e.calls.length
      otherwise (goes_concludeRemoval (e.withRemoval what borrows) e.calls.length .done)
    have hadded : (e.withRemoval what borrows).calls[c]? = some call :=
      getElem?_addCall (e := { e with registry := what.apply e.registry }) h _ _ _ _
    exact (hgoes.others hne).trans hadded

end Begin

/-! ### Steps -/

/-- What an action does to the phase of a call. -/
inductive CallStep (e e' : Engine) (c : Nat) (call call' : Call) : Action → Prop
  /-- Nothing. -/
  | keep {action : Action} (phase : call'.phase = call.phase) : CallStep e e' c call call' action
  /-- Handing it an answer. -/
  | answer (answer : Answer) (phase : call'.phase = call.phase.withAnswer answer) :
      CallStep e e' c call call' (.answer (.call c) answer)
  /-- Letting it go on. -/
  | move (preferAnswer : Bool) (move : CallMove e c call e') :
      CallStep e e' c call call' (.resume (.call c) preferAnswer)

/-- A step leaves what a call was asked and what it has registered as it is. -/
theorem callStep_of_step {e e' : Engine} {action : Action} (h : e.step action = some e') {c : Nat}
    {call : Call} (hcall : e.calls[c]? = some call) :
    ∃ call', e'.calls[c]? = some call' ∧ call'.request = call.request ∧
      call'.registered = call.registered ∧ CallStep e e' c call call' action := by
  -- what leaves the calls as they are leaves this one in its phase
  have hkeep {e' : Engine} {action : Action} (hcalls : e'.calls = e.calls) :
      ∃ call', e'.calls[c]? = some call' ∧ call'.request = call.request ∧
        call'.registered = call.registered ∧ CallStep e e' c call call' action :=
    ⟨call, hcalls ▸ hcall, rfl, rfl, .keep rfl⟩
  cases stepMove_of_step h with
  | start alive request =>
    exact ⟨call, getElem?_beginCall hcall request true, rfl, rfl, .keep rfl⟩
  | @closeHandle c₁ key id handle =>
    -- the mark on the handle is not part of the phase
    obtain ⟨call', hcall', hsame⟩ : ∃ call', (e.useHandle c₁).calls[c]? = some call' ∧
        call'.request = call.request ∧ call'.registered = call.registered ∧
        call'.phase = call.phase := by
      rw [useHandle, List.getElem?_modify, hcall]
      refine ⟨_, rfl, ?_⟩
      split <;> exact ⟨rfl, rfl, rfl⟩
    exact ⟨call', getElem?_beginCall hcall' _ false, hsame.1, hsame.2.1, .keep hsame.2.2⟩
  | worker present running move => exact hkeep (frame_of_workerMove move).calls
  | @call c₁ call₁ _ present move preferAnswer =>
    obtain ⟨phase, hgoes, -⟩ := goes_of_callMove e c₁ move
    by_cases hc : c = c₁
    · subst hc
      cases hcall.symm.trans present
      exact ⟨_, hgoes.self hcall, rfl, rfl, .move preferAnswer move⟩
    · exact ⟨call, (hgoes.others hc).trans hcall, rfl, rfl, .keep rfl⟩
  | @answer task awaited answer =>
    cases task with
    | worker w => exact hkeep rfl
    | call c₁ =>
      have hcalls : (e.giveAnswer (.call c₁) answer).calls = e.calls.modify c₁ fun k =>
          { k with phase := k.phase.withAnswer answer } := rfl
      rw [hcalls, List.getElem?_modify, hcall]
      by_cases hc : c₁ = c
      · subst hc
        simp only [if_true]
        exact ⟨_, rfl, rfl, rfl, .answer answer rfl⟩
      · simp only [if_neg hc]
        exact ⟨_, rfl, rfl, rfl, .keep rfl⟩
  | dropWorker alive free taken =>
    have hcalls := calls_of_takeWorker _ taken
    exact hkeep hcalls
  | arrive | finish | tick | dropClient | setCredential | observeConnect | observeDisconnect =>
    exact hkeep rfl

/-- An answer settles nothing by itself. -/
theorem result?_withAnswer (answer : Answer) (phase : Call.Phase) :
    (phase.withAnswer answer).result? = phase.result? := by
  cases phase <;> rfl

/-- A run leaves what a call was asked and what it has registered as it is. -/
theorem exists_call_of_run {e e' : Engine} {actions : List Action}
    (hrun : e.run actions = some e') {c : Nat} {call : Call} (hcall : e.calls[c]? = some call) :
    ∃ call', e'.calls[c]? = some call' ∧ call'.request = call.request ∧
      call'.registered = call.registered := by
  -- the call is found again after every step
  refine run_invariant (p := fun e => ∃ call', e.calls[c]? = some call' ∧
    call'.request = call.request ∧ call'.registered = call.registered) (q := fun _ => True)
    hrun (fun _ _ => trivial) (fun {e₁ e₂ action} _ hstep hfound => ?_) ⟨call, hcall, rfl, rfl⟩
  obtain ⟨call₁, hcall₁, hrequest, hregistered⟩ := hfound
  obtain ⟨call₂, hcall₂, hrequest', hregistered', -⟩ := callStep_of_step hstep hcall₁
  exact ⟨call₂, hcall₂, hrequest'.trans hrequest, hregistered'.trans hregistered⟩

/-- A call leaves a kind of phases that answers do not lead out of in a step in which it goes on. -/
theorem exists_move_of_leaves {p : Call.Phase → Prop}
    (hanswer : ∀ phase answer, p phase → p (phase.withAnswer answer)) {e e' : Engine}
    {actions : List Action} (hrun : e.run actions = some e') {c : Nat} {call call' : Call}
    (hcall : e.calls[c]? = some call) (hphase : p call.phase) (hcall' : e'.calls[c]? = some call')
    (hleft : ¬ p call'.phase) :
    ∃ e₁ preferAnswer e₂ call₁,
      e.Passes actions e' e₁ (.resume (.call c) preferAnswer) e₂ ∧
      e₁.calls[c]? = some call₁ ∧ p call₁.phase ∧ call₁.registered = call.registered ∧
      CallMove e₁ c call₁ e₂ := by
  let stays (e : Engine) : Prop := ∃ call, e.calls[c]? = some call ∧ p call.phase
  have hnot : ¬ stays e' := by
    rintro ⟨call₁, hcall₁, hphase₁⟩
    cases hcall'.symm.trans hcall₁
    exact hleft hphase₁
  obtain ⟨e₁, action, e₂, hpasses, hbefore, hafter⟩ := exists_passes (p := fun e => ¬ stays e) hrun
    (not_not.2 ⟨call, hcall, hphase⟩) hnot
  obtain ⟨call₁, hcall₁, hphase₁⟩ := not_not.1 hbefore
  obtain ⟨before, after, -, hreach, hrest⟩ := hpasses.split
  obtain ⟨call₁', hcall₁', -, hregistered⟩ := exists_call_of_run hreach hcall
  cases hcall₁.symm.trans hcall₁'
  obtain ⟨call₂, hcall₂, -, -, hstep⟩ := callStep_of_step hpasses.step hcall₁
  cases hstep with
  | keep phase => exact absurd ⟨call₂, hcall₂, phase ▸ hphase₁⟩ hafter
  | answer answer phase => exact absurd ⟨call₂, hcall₂, phase ▸ hanswer _ _ hphase₁⟩ hafter
  | move preferAnswer move =>
    exact ⟨e₁, preferAnswer, e₂, call₁, hpasses, hcall₁, hphase₁, hregistered, move⟩

end TopicStream.Engine
