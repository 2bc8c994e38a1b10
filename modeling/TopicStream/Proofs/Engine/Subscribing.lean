import TopicStream.Proofs.Engine.Accounts
import TopicStream.Proofs.Engine.Posting
import TopicStream.Proofs.Engine.Undoing

/-!
# What a subscription that succeeds has seen

A subscription returns its registration only if it has found the session ready, and in the step in
which it has there was nothing to announce, or it has announced all topics (`Confirmation`). An
announcement of its own that is answered with an error that counts undoes the registration, and from
there on only a crash keeps the call from returning that error (`result?_of_run`).

## Main results

* `exists_step_of_awaiting`: the step with which a subscription that succeeds stops waiting for the
  greeting;
* `exists_step_of_announcing`: the step with which it takes what has become of its announcement;
* `subscribed_means`: what holds of every run in which a subscription succeeds.
-/

namespace TopicStream.Engine

open Subscription

/-! ### Settled outcomes -/

section Settled

variable {e e' : Engine} {c : Nat} {call call' : Call} {outcome : Outcome}

/-- A call whose outcome is settled goes on with that outcome or crashes. -/
theorem result?_of_callMove (h : CallMove e c call e') (hcall : e.calls[c]? = some call)
    (hcall' : e'.calls[c]? = some call') (hresult : call.phase.result? = some outcome) :
    call'.phase.result? = some outcome ∨ call'.phase.result? = some .crashed := by
  have hphase {phase : Call.Phase} (hgoes : Goes e e' c phase) : call'.phase = phase := by
    cases (hgoes.self hcall).symm.trans hcall'
    rfl
  cases h with
  -- a call that still waits for the greeting or for its announcement has no outcome
  | announce phase | greeted phase | timeOut phase | subscribed phase | conclude phase =>
    rw [phase] at hresult
    cases hresult
  | undo subscriber cause =>
    rcases cause with ⟨deadline, -, phase, -⟩ | ⟨watched, phase, -⟩
    · rw [phase] at hresult
      cases hresult
    · rw [phase] at hresult
      cases hresult
  | restored phase =>
    rw [phase] at hresult
    cases hresult
    exact .inl (by rw [hphase (goes_endCall e c _)]; rfl)
  | crash => exact .inr (by rw [hphase (goes_endCall e c _)]; rfl)
  | join phase =>
    rw [phase] at hresult
    cases hresult
    exact .inl (by rw [hphase (goes_concludeDisconnect e c _)]; rfl)

/-- What is settled stays settled, unless the transport crashes under the call. -/
theorem result?_of_run {actions : List Action} (hrun : e.run actions = some e')
    (hcall : e.calls[c]? = some call) (hresult : call.phase.result? = some outcome)
    (hcall' : e'.calls[c]? = some call') :
    call'.phase.result? = some outcome ∨ call'.phase.result? = some .crashed := by
  let settled (e : Engine) : Prop := ∃ call, e.calls[c]? = some call ∧
    (call.phase.result? = some outcome ∨ call.phase.result? = some .crashed)
  have hsettled : settled e' := by
    refine run_invariant (p := settled) (q := fun _ => True) hrun (fun _ _ => trivial)
      (fun {e₁ e₂ action} _ hstep hbefore => ?_) ⟨call, hcall, .inl hresult⟩
    obtain ⟨call₁, hcall₁, hresult₁⟩ := hbefore
    obtain ⟨call₂, hcall₂, -, -, hphase⟩ := callStep_of_step hstep hcall₁
    refine ⟨call₂, hcall₂, ?_⟩
    cases hphase with
    | keep phase =>
      rw [phase]
      exact hresult₁
    | answer answer phase =>
      rw [phase, result?_withAnswer]
      exact hresult₁
    | move preferAnswer move =>
      rcases hresult₁ with hresult₁ | hresult₁
      · exact result?_of_callMove move hcall₁ hcall₂ hresult₁
      · exact .inr (or_self_iff.1 (result?_of_callMove move hcall₁ hcall₂ hresult₁))
  obtain ⟨call₁, hcall₁, hresult₁⟩ := hsettled
  cases hcall'.symm.trans hcall₁
  exact hresult₁

/-- A call that has failed or crashed does not succeed later. -/
theorem result?_ne_subscribed {actions : List Action} {key : String} {id : ListenerId}
    (hrun : e.run actions = some e') (hcall : e.calls[c]? = some call)
    (hresult : call.phase.result? = some .crashed ∨
      ∃ error, call.phase.result? = some (.failed error))
    (hcall' : e'.calls[c]? = some call') : call'.phase ≠ .ended (.subscribed key id) := by
  intro hended
  rcases hresult with hresult | ⟨error, hresult⟩
  · have h := or_self_iff.1 (result?_of_run hrun hcall hresult hcall')
    rw [hended] at h
    cases h
  · rcases result?_of_run hrun hcall hresult hcall' with h | h
    · rw [hended] at h
      cases h
    · rw [hended] at h
      cases h

end Settled

/-! ### Ids -/

section Ids

variable {e e' : Engine}

theorem RegistryMove.issued_le {r r' : Registry Listener} (h : RegistryMove r r') :
    r.issued ≤ r'.issued := by
  cases h with
  | keep => exact Nat.le_refl _
  | add key listener => exact Nat.le_succ _
  | remove what => exact Nat.le_of_eq (what.issued_apply r).symm

/-- A call that begins has registered its listener, if it has, under the id issued last. -/
theorem issued_of_beginCall {request : Request} {borrows : Bool} {call : Call} {key : String}
    {id : ListenerId} (hfresh : e.eventsOf (.call e.calls.length) = [])
    (hcall : (e.beginCall request borrows).calls[e.calls.length]? = some call)
    (hregistered : call.registered = some (key, id)) :
    id.number ≤ (e.beginCall request borrows).registry.issued := by
  obtain ⟨call₁, hcall₁, rfl, hregisters, -⟩ := opens_beginCall hfresh request borrows
  cases hcall.symm.trans hcall₁
  cases hrequest : call.request with
  | subscribe topic options listener =>
    rw [hrequest, hregistered] at hregisters
    obtain ⟨htopic, -⟩ := hregisters
    obtain ⟨hregistry, call₂, hcall₂, -, hregistered₂, -⟩ :=
      beginCall_subscribe e htopic options listener borrows
    rw [hrequest] at hcall
    cases hcall.symm.trans hcall₂
    cases hregistered.symm.trans hregistered₂
    rw [hregistry]
    exact Nat.le_refl _
  | ensureConnected | disconnect | remove =>
    rw [hrequest] at hregisters
    cases hregistered.symm.trans hregisters

/-- All ids of calls have been issued. -/
theorem issued_of_registered {settings : Settings} {credential : Option String}
    (he : Reachable settings credential e) {c : Nat} {call : Call} {key : String} {id : ListenerId}
    (hcall : e.calls[c]? = some call) (hregistered : call.registered = some (key, id)) :
    id.number ≤ e.registry.issued := by
  induction he generalizing c call with
  | initial => cases hcall
  | @step e e' action before happens ih =>
    cases hold : e.calls[c]? with
    | some call₀ =>
      obtain ⟨call₁, hcall₁, -, hsame, -⟩ := callStep_of_step happens hold
      cases hcall.symm.trans hcall₁
      exact Nat.le_trans (ih hold (hsame.symm.trans hregistered)) (step_registry happens).issued_le
    | none =>
      obtain ⟨rfl, request, hbegins⟩ := exists_begins_of_step happens hold hcall
      have hfresh := (accounts_of_reachable before).fresh _ hold
      cases hbegins with
      | start request => exact issued_of_beginCall hfresh hcall hregistered
      | @closeHandle c₁ key' id' handle =>
        have hlength : (e.useHandle c₁).calls.length = e.calls.length := List.length_modify ..
        rw [← hlength] at hcall hfresh
        exact issued_of_beginCall (e := e.useHandle c₁) hfresh hcall hregistered

/-- A call that has returned a registration has registered it. -/
theorem Account.registered_of_subscribed {s : Settings} {c : Nat} {request : Request}
    {registered : Option (String × ListenerId)} {log : List Event} {key : String} {id : ListenerId}
    (h : Account s c request registered (.ended (.subscribed key id)) log) :
    registered = some (key, id) := by
  cases h with
  | settled settled aftermath =>
    have houtcome := aftermath.result?_eq
    cases houtcome
    exact settled.registered_of_subscribed

/-- What the log tells to have been registered a call has registered. -/
theorem Account.registered_of_mem {s : Settings} {c : Nat} {request : Request}
    {registered : Option (String × ListenerId)} {phase : Call.Phase} {log : List Event}
    {key : String} {id : ListenerId} (h : Account s c request registered phase log)
    (hmem : .registered c key id ∈ log) : registered = some (key, id) := by
  -- a registration is noted in the preamble and nowhere else
  have hbefore {before : List Event} {outcome : Outcome}
      (hsettled : Settled s c request registered before outcome)
      (hmem : .registered c key id ∈ before) : registered = some (key, id) := by
    cases hsettled <;> simpa using hmem
  cases h with
  | unset => simp at hmem
  | awaiting => simpa using hmem
  | announcing => simpa using hmem
  | settled settled aftermath =>
    refine hbefore settled ((List.mem_append.1 hmem).resolve_right ?_)
    cases aftermath <;> simp
  | crashed => simpa using hmem
  | crashedRestoring settled =>
    refine hbefore settled ((List.mem_append.1 hmem).resolve_right ?_)
    simp

/-- An id that has not been issued is in no registration that has been noted. -/
theorem registered_not_mem {settings : Settings} {credential : Option String}
    (he : Reachable settings credential e) {c : Nat} {key : String} {id : ListenerId}
    (hid : e.registry.issued < id.number) : .registered c key id ∉ e.events := by
  intro hmem
  have hown : .registered c key id ∈ e.eventsOf (.call c) :=
    List.mem_filter.2 ⟨hmem, decide_eq_true rfl⟩
  have haccounts := accounts_of_reachable he
  cases hcall : e.calls[c]? with
  | none =>
    rw [haccounts.fresh c hcall] at hown
    cases hown
  | some call =>
    have hregistered := (haccounts.account c call hcall).registered_of_mem hown
    have hissued := issued_of_registered he hcall hregistered
    omega

end Ids

/-! ### The steps of a subscription -/

/-- What lets a subscription end well: its announcement has succeeded, or it has been given up,
which the transport or the end of the session tells. -/
inductive Granted (e : Engine) (w : Nat) : Option Answer → Prop
  /-- The announcement has succeeded. -/
  | made : Granted e w (some .success)
  /-- The transport has given it up. -/
  | aborted {error : ClientError} (abort : error.isAbort = true) :
      Granted e w (some (.failure error))
  /-- The worker of its session is not the current one any more, and no answer has been taken. -/
  | cut (gone : e.slot ≠ some w) : Granted e w none

section Steps

variable {e e' : Engine} {c : Nat} {call : Call} {key : String} {id : ListenerId}

/-- The beginning of a subscription to a topic waits for the greeting. -/
theorem beginCall_awaits (e : Engine) {topic : String} (htopic : topic ≠ "") (options : Options)
    (listener : Listener) (borrows : Bool) :
    ∃ call deadline,
      (e.beginCall (.subscribe topic options listener) borrows).calls[e.calls.length]? =
        some call ∧
      call.phase = .awaiting deadline :=
  ⟨_, _, getElem?_beginCall_subscribe e htopic options listener borrows, rfl⟩

/-- A subscription that stops waiting for the greeting finds the session ready, or undoes its
registration. -/
theorem eq_of_awaiting (h : CallMove e c call e') {deadline : Nat}
    (hphase : call.phase = .awaiting deadline) (hregistered : call.registered = some (key, id)) :
    (e.ready = true ∧ e' = e.announceFor c fun e => e.endCall c (.subscribed key id)) ∨
      ∃ error, e' = e.rollBack c key id error := by
  cases h with
  | announce phase ready subscriber =>
    cases hregistered.symm.trans subscriber
    exact .inl ⟨ready, rfl⟩
  | undo subscriber cause =>
    cases hregistered.symm.trans subscriber
    exact .inr ⟨_, rfl⟩
  | greeted phase ready waiter | timeOut phase waits due waiter =>
    cases hregistered.symm.trans waiter
  | conclude phase remover => cases hregistered.symm.trans remover
  | subscribed phase | restored phase | join phase => cases hphase.symm.trans phase
  | crash phase =>
    rcases phase with ⟨watched, phase⟩ | ⟨error, watched, phase⟩
    · cases hphase.symm.trans phase
    · cases hphase.symm.trans phase

/-- A subscription that goes on after its announcement ends well, undoes its registration, or
crashes. -/
theorem eq_of_announcing (hinv : e.core.SlotInv) {w : Nat} {answer : Option Answer}
    {preferAnswer : Bool} (h : e.resumeCall c preferAnswer = some e')
    (hcall : e.calls[c]? = some call) (hphase : call.phase = .announcing (some w) answer)
    (hregistered : call.registered = some (key, id)) :
    ∃ taken, e.takeAnswer (some w) answer preferAnswer = some taken ∧
      ((Granted e w taken ∧ e' = e.endCall c (.subscribed key id)) ∨
        (∃ error, e' = e.rollBack c key id error) ∨ e' = e.endCall c .crashed) := by
  simp only [resumeCall, hcall, hphase] at h
  obtain ⟨taken, htaken, rfl⟩ := Option.map_eq_some_iff.1 h
  have hgranted : e.afterAnnouncement c call = e.endCall c (.subscribed key id) := by
    simp only [afterAnnouncement, hregistered]
  refine ⟨taken, htaken, ?_⟩
  rcases takeAnswer_eq_some htaken with ⟨a, -, rfl⟩ | ⟨hgone, rfl⟩
  · cases a with
    | success => exact .inl ⟨.made, hgranted⟩
    | crash => exact .inr (.inr rfl)
    | failure error =>
      rw [continueAnnouncing]
      by_cases hcounts : counts error = true
      · rw [if_pos hcounts]
        exact .inr (.inl ⟨error, by simp only [afterFailure, hregistered]⟩)
      · rw [if_neg hcounts]
        exact .inl ⟨.aborted (by simpa [counts] using hcounts), hgranted⟩
  · refine .inl ⟨.cut fun hslot => ?_, hgranted⟩
    -- the worker in the slot has not been told to end
    obtain ⟨k, hk, -, hlive⟩ := hinv.slot_some w hslot
    have hworker : e.workers[w]? = some k := hk
    simp [isGone, hslot, hworker, hlive] at hgone

/-- A subscription leaves the registry as it is or undoes its registration. -/
theorem registry_eq_or_rollBack (h : CallMove e c call e')
    (hregistered : call.registered = some (key, id)) :
    e'.registry = e.registry ∨ ∃ error, e' = e.rollBack c key id error := by
  cases h with
  | announce phase ready subscriber => exact .inl (registry_announceFor e c rfl)
  | undo subscriber cause =>
    cases hregistered.symm.trans subscriber
    exact .inr ⟨_, rfl⟩
  | conclude => exact .inl (registry_concludeRemoval e c _)
  | join => exact .inl (registry_concludeDisconnect e c _)
  | greeted | timeOut | subscribed | restored | crash => exact .inl rfl

end Steps

/-! ### The course of a subscription that succeeds -/

/-- A registration has been taken out in the course of a run, and not by the call with this
number. -/
def TakenOut (e : Engine) (before : List Action) (e₁ : Engine) (c : Nat) (key : String)
    (p : ListenerId × Listener) : Prop :=
  ∃ f₁ action f₂, e.Passes before e₁ f₁ action f₂ ∧
    (∀ preferAnswer, action ≠ .resume (.call c) preferAnswer) ∧
    p ∈ f₁.registry.entries key ∧ p ∉ f₂.registry.entries key

/-- Why a subscription ends well that goes on from a state in which the session is ready. -/
inductive Confirmation (c : Nat) (key : String) (id : ListenerId) (out : Prop) (e₁ e₂ : Engine)
    (after : List Action) (e' : Engine) : Prop
  /-- The greeting has given no client id, so that nothing is due: the call returns. -/
  | unnamed (clientId : e₁.session.clientId = "")
      (returns : e₂ = e₁.endCall c (.subscribed key id))
  /-- There are no topics, as others have taken the registration out: the call returns. -/
  | emptied (empty : e₁.registry.isEmpty = true) (taken : out)
      (returns : e₂ = e₁.endCall c (.subscribed key id))
  /-- The call announces all topics for the client id of the session, its own among them unless
  others have taken the registration out, waits, and then takes what lets it return. -/
  | announced {clientId : String} {topics : List String} {w : Nat}
      (session : e₁.session = ⟨clientId, true⟩) (full : FullSet e₁.registry topics)
      (mine : key ∈ topics ∨ out)
      (sent : e₂.events = e₁.events ++ [.announced (.call c) clientId topics])
      (current : e₁.slot = some w) {e₃ e₄ : Engine} {preferAnswer : Bool}
      (passes : e₂.Passes after e' e₃ (.resume (.call c) preferAnswer) e₄)
      {answer taken : Option Answer}
      (own : e₃.eventsOf (.call c) = .registered c key id ::
        .announced (.call c) clientId topics :: answer.toList.map (.answered (.call c)))
      (takes : e₃.takeAnswer (some w) answer preferAnswer = some taken)
      (granted : Granted e₃ w taken) (returns : e₄ = e₃.endCall c (.subscribed key id))

section Course

variable {settings : Settings} {credential : Option String} {e e' : Engine}
  {actions : List Action} {c : Nat} {call call' : Call} {key : String} {id : ListenerId}

/-- What concerns a task stays noted. -/
theorem eventsOf_run (hrun : e.run actions = some e') (task : Task) :
    ∃ more, e'.eventsOf task = e.eventsOf task ++ more := by
  refine run_invariant (p := fun e' => ∃ more, e'.eventsOf task = e.eventsOf task ++ more)
    (q := fun _ => True) hrun (fun _ _ => trivial) (fun {e₁ e₂ action} _ hstep hbefore => ?_)
    ⟨[], (List.append_nil _).symm⟩
  obtain ⟨more, hmore⟩ := hbefore
  obtain ⟨later, htrace, -⟩ := notes_of_step hstep
  refine ⟨more ++ later.filter fun event => event.task? = some task, ?_⟩
  rw [← List.append_assoc, ← hmore, eventsOf, eventsOf, events_of_trace htrace,
    List.filter_append]

/-- A subscription whose registration has been undone does not succeed. -/
theorem not_subscribed_of_rollBack {error : ClientError} {e₁ : Engine} {call₁ : Call}
    (hcall₁ : e₁.calls[c]? = some call₁)
    (hrun : (e₁.rollBack c key id error).run actions = some e') (hcall' : e'.calls[c]? = some call')
    {key' : String} {id' : ListenerId} : call'.phase ≠ .ended (.subscribed key' id') := by
  obtain ⟨phase, hgoes, hresult⟩ := goes_rollBack e₁ c key id error
  exact result?_ne_subscribed hrun (hgoes.self hcall₁) (.inr ⟨error, hresult⟩) hcall'

/-- A subscription that succeeds has stopped to wait for the greeting as the session was ready. -/
theorem exists_step_of_awaiting (hrun : e.run actions = some e') {deadline : Nat}
    (hcall : e.calls[c]? = some call) (hphase : call.phase = .awaiting deadline)
    (hregistered : call.registered = some (key, id)) (hcall' : e'.calls[c]? = some call')
    (hended : call'.phase = .ended (.subscribed key id)) :
    ∃ e₁ preferAnswer e₂ call₁ deadline',
      e.Passes actions e' e₁ (.resume (.call c) preferAnswer) e₂ ∧
      e₁.calls[c]? = some call₁ ∧ call₁.phase = .awaiting deadline' ∧
      call₁.registered = some (key, id) ∧ e₁.ready = true ∧
      e₂ = e₁.announceFor c fun e => e.endCall c (.subscribed key id) := by
  obtain ⟨e₁, preferAnswer, e₂, call₁, hpasses, hcall₁, ⟨deadline', hphase₁⟩, hsame, hmove⟩ :=
    exists_move_of_leaves (p := fun phase => ∃ deadline, phase = .awaiting deadline)
      (by rintro _ answer ⟨deadline, rfl⟩; exact ⟨deadline, rfl⟩) hrun hcall ⟨deadline, hphase⟩
      hcall' (by rw [hended]; rintro ⟨deadline, heq⟩; cases heq)
  obtain ⟨before, after, -, -, hrest⟩ := hpasses.split
  have hregistered₁ := hsame.trans hregistered
  rcases eq_of_awaiting hmove hphase₁ hregistered₁ with ⟨hready, rfl⟩ | ⟨error, rfl⟩
  · exact ⟨e₁, preferAnswer, _, call₁, deadline', hpasses, hcall₁, hphase₁, hregistered₁, hready,
      rfl⟩
  · exact absurd hended (not_subscribed_of_rollBack hcall₁ hrest hcall')

/-- A subscription that succeeds after its announcement has taken what lets it return. -/
theorem exists_step_of_announcing (he : Reachable settings credential e)
    (hrun : e.run actions = some e') {w : Nat} {answer : Option Answer}
    (hcall : e.calls[c]? = some call) (hphase : call.phase = .announcing (some w) answer)
    (hregistered : call.registered = some (key, id)) (hcall' : e'.calls[c]? = some call')
    (hended : call'.phase = .ended (.subscribed key id)) :
    ∃ e₁ preferAnswer e₂ call₁ answer' taken,
      e.Passes actions e' e₁ (.resume (.call c) preferAnswer) e₂ ∧
      e₁.calls[c]? = some call₁ ∧ call₁.phase = .announcing (some w) answer' ∧
      e₁.takeAnswer (some w) answer' preferAnswer = some taken ∧ Granted e₁ w taken ∧
      e₂ = e₁.endCall c (.subscribed key id) := by
  obtain ⟨e₁, preferAnswer, e₂, call₁, hpasses, hcall₁, ⟨answer', hphase₁⟩, hsame, -⟩ :=
    exists_move_of_leaves (p := fun phase => ∃ answer, phase = .announcing (some w) answer)
      (by rintro _ given ⟨answer, rfl⟩; exact ⟨some given, rfl⟩) hrun hcall ⟨answer, hphase⟩
      hcall' (by rw [hended]; rintro ⟨answer, heq⟩; cases heq)
  obtain ⟨before, after, -, -, hrest⟩ := hpasses.split
  have hinv := slotInv_of_reachable (hpasses.reachable he)
  obtain ⟨taken, htaken, ⟨hgranted, rfl⟩ | ⟨error, rfl⟩ | rfl⟩ :=
    eq_of_announcing hinv hpasses.step hcall₁ hphase₁ (hsame.trans hregistered)
  · exact ⟨e₁, preferAnswer, _, call₁, answer', taken, hpasses, hcall₁, hphase₁, htaken, hgranted,
      rfl⟩
  · exact absurd hended (not_subscribed_of_rollBack hcall₁ hrest hcall')
  · have hcrashed := (goes_endCall e₁ c .crashed).self hcall₁
    exact absurd hended (result?_ne_subscribed hrest hcrashed (.inl rfl) hcall')

/-- A subscription that succeeds has had a topic. -/
theorem topic_ne_of_subscribed {topic : String} {options : Options} {listener : Listener}
    {borrows : Bool}
    (hrun : (e.beginCall (.subscribe topic options listener) borrows).run actions = some e')
    (hcall' : e'.calls[e.calls.length]? = some call')
    (hended : call'.phase = .ended (.subscribed key id)) : topic ≠ "" := by
  -- without one it has failed as it has begun
  rintro rfl
  obtain ⟨-, -, -, call, hcalls, hphase⟩ := beginCall_unset e options listener borrows
  have hcall : (e.beginCall (.subscribe "" options listener) borrows).calls[e.calls.length]? =
      some call := by
    rw [hcalls]
    exact List.getElem?_concat_length
  exact result?_ne_subscribed hrun hcall (.inr ⟨_, by rw [hphase]; rfl⟩) hcall' hended

/-- A subscription that succeeds returns what it has registered. -/
theorem registered_of_subscribed (he : Reachable settings credential e)
    (hrun : e.run actions = some e') (hcall : e.calls[c]? = some call)
    (hcall' : e'.calls[c]? = some call') (hended : call'.phase = .ended (.subscribed key id)) :
    call.registered = some (key, id) := by
  obtain ⟨call₁, hcall₁, -, hsame⟩ := exists_call_of_run hrun hcall
  cases hcall'.symm.trans hcall₁
  have haccount := (accounts_of_reachable (he.run hrun)).account c call' hcall'
  rw [hended] at haccount
  exact hsame.symm.trans haccount.registered_of_subscribed

/-- A subscription that succeeds has taken no error as the answer to its announcement, but that the
announcement was given up. -/
theorem isAbort_of_takeAnswer (hcall : e.calls[c]? = some call)
    (hregistered : call.registered = some (key, id)) (hcall' : e'.calls[c]? = some call')
    (hended : call'.phase = .ended (.subscribed key id)) {f₁ f₂ : Engine} {preferAnswer : Bool}
    {call₁ : Call} {watched : Option Nat} {answer : Option Answer} {error : ClientError}
    (hpasses : e.Passes actions e' f₁ (.resume (.call c) preferAnswer) f₂)
    (hcall₁ : f₁.calls[c]? = some call₁) (hphase₁ : call₁.phase = .announcing watched answer)
    (htaken : f₁.takeAnswer watched answer preferAnswer = some (some (.failure error))) :
    error.isAbort = true := by
  by_contra habort
  have hcounts : counts error = true := by simpa [counts] using habort
  obtain ⟨before, after, -, hreach, hafter⟩ := hpasses.split
  obtain ⟨call₁', hcall₁', -, hsame⟩ := exists_call_of_run hreach hcall
  cases hcall₁.symm.trans hcall₁'
  -- the registration is undone, so that the call fails
  have hundone : f₁.resumeCall c preferAnswer = some (f₁.rollBack c key id error) := by
    simp only [resumeCall, hcall₁, hphase₁, htaken, Option.map_some, continueAnnouncing,
      if_pos hcounts, afterFailure, hsame, hregistered]
  cases hundone.symm.trans hpasses.step
  exact not_subscribed_of_rollBack hcall₁ hafter hcall' hended

/-- A registration is still there, or has been taken out, and not by the call that succeeds. -/
theorem mem_or_takenOut {before after : List Action} {e₁ : Engine}
    (hbefore : e.run before = some e₁) (hafter : e₁.run after = some e')
    (hcall : e.calls[c]? = some call) (hregistered : call.registered = some (key, id))
    {p : ListenerId × Listener} (hp : p ∈ e.registry.entries key)
    (hcall' : e'.calls[c]? = some call') (hended : call'.phase = .ended (.subscribed key id)) :
    p ∈ e₁.registry.entries key ∨ TakenOut e before e₁ c key p := by
  by_cases hmem : p ∈ e₁.registry.entries key
  · exact .inl hmem
  · right
    obtain ⟨f₁, action, f₂, hpasses, hthere, hout⟩ :=
      exists_passes (p := fun e => p ∉ e.registry.entries key) hbefore (not_not.2 hp) hmem
    refine ⟨f₁, action, f₂, hpasses, ?_, not_not.1 hthere, hout⟩
    -- the call itself would have undone its registration, and failed
    rintro preferAnswer rfl
    obtain ⟨early, late, -, hreach, hrest⟩ := hpasses.split
    obtain ⟨call₁, hcall₁, -, hsame⟩ := exists_call_of_run hreach hcall
    obtain ⟨call₁', hcall₁', hmove⟩ := callMove_resumeCall hpasses.step
    cases hcall₁.symm.trans hcall₁'
    rcases registry_eq_or_rollBack hmove (hsame.trans hregistered) with hkeep | ⟨error, rfl⟩
    · exact hthere (hkeep ▸ hout)
    · have hrun : (f₁.rollBack c key id error).run (late ++ after) = some e' := by
        rw [run_append, hrest]
        exact hafter
      exact absurd hended (not_subscribed_of_rollBack hcall₁ hrun hcall')

/-- Where the session is ready and nothing is due, it has no client id or there are no topics. -/
theorem unnamed_or_isEmpty (hwf : e.registry.WellFormed) (hready : e.session.ready = true)
    (hnothing : e.announcement? = none) :
    e.session.clientId = "" ∨ e.registry.isEmpty = true := by
  by_contra hnot
  rw [not_or, Bool.not_eq_true] at hnot
  obtain ⟨hnamed, htopics⟩ := hnot
  have hactive := hwf.activeTopics_ne_nil htopics
  simp [announcement?, Session.canRegister, hready, hnamed, hactive] at hnothing

/-- The log of a subscription that waits for its announcement, which it has sent in the step after
which the rest of the run begins. -/
theorem eventsOf_of_announcing (he : Reachable settings credential e) {e₁ e₂ : Engine}
    {call₁ : Call} {deadline : Nat} {watched : Option Nat} {answer : Option Answer}
    {clientId : String} {topics : List String} (hcall : e.calls[c]? = some call)
    (hphase : call.phase = .awaiting deadline) (hregistered : call.registered = some (key, id))
    (hnotes : Notes e e₁ [.announced (.call c) clientId topics])
    (he₁ : Reachable settings credential e₁) (hrun : e₁.run actions = some e₂)
    (hcall₂ : e₂.calls[c]? = some call₁) (hphase₂ : call₁.phase = .announcing watched answer)
    (hregistered₂ : call₁.registered = some (key, id)) :
    e₂.eventsOf (.call c) = .registered c key id ::
      .announced (.call c) clientId topics :: answer.toList.map (.answered (.call c)) := by
  have hbefore : e.eventsOf (.call c) = [.registered c key id] := by
    have haccount := (accounts_of_reachable he).account c call hcall
    rw [hphase, hregistered] at haccount
    generalize hlog : e.eventsOf (.call c) = log at haccount
    cases haccount with
    | awaiting waits => rfl
    | settled settled aftermath => cases aftermath
  have hsent : e₁.eventsOf (.call c) =
      e.eventsOf (.call c) ++ [.announced (.call c) clientId topics] :=
    hnotes.eventsOf (by simp [Event.task?])
  obtain ⟨more, hmore⟩ := eventsOf_run hrun (.call c)
  rw [hsent, hbefore] at hmore
  -- the account tells the same announcement, and the answer
  have haccount := (accounts_of_reachable (he₁.run hrun)).account c call₁ hcall₂
  rw [hphase₂, hregistered₂] at haccount
  generalize hlog : e₂.eventsOf (.call c) = log at haccount
  cases haccount with
  | announcing topical =>
    rw [hlog] at hmore
    simp only [preamble, Option.toList_some, List.map_cons, List.map_nil, List.cons_append,
      List.nil_append, List.cons.injEq, Event.announced.injEq, true_and] at hmore ⊢
    exact ⟨hmore.1, trivial⟩
  | settled settled aftermath => cases aftermath

/-- What a subscription that succeeds has seen from the step on in which it goes on after the
greeting. -/
theorem confirmation_of_ready {out : Prop} {e₁ e₂ : Engine} {call₁ : Call} {deadline : Nat}
    {p : ListenerId × Listener} {preferAnswer : Bool}
    (he₁ : Reachable settings credential e₁)
    (hstep : e₁.step (.resume (.call c) preferAnswer) = some e₂) (hrest : e₂.run actions = some e')
    (hcall₁ : e₁.calls[c]? = some call₁) (hphase₁ : call₁.phase = .awaiting deadline)
    (hregistered₁ : call₁.registered = some (key, id)) (hready : e₁.session.ready = true)
    (he₂ : e₂ = e₁.announceFor c fun e => e.endCall c (.subscribed key id))
    (hmem : p ∈ e₁.registry.entries key ∨ out) (hcall' : e'.calls[c]? = some call')
    (hended : call'.phase = .ended (.subscribed key id)) :
    Confirmation c key id out e₁ e₂ actions e' := by
  rcases proceeds_announceFor e₁ c fun e => e.endCall c (.subscribed key id) with
    ⟨clientId, topics, hdue, hproceeds⟩ | ⟨hnothing, heq⟩
  · -- the announcement is due: it is sent, and what becomes of it decides
    obtain ⟨w, -, -, hslot, -⟩ := (sessionInv_of_reachable he₁).session hready
    have hcurrent : e₁.slot = some w := hslot
    have hfull := fullSet_of_announcement? hdue
    have hmine : key ∈ topics ∨ out :=
      hmem.imp_left fun hp => (hfull.mem key).2 (List.ne_nil_of_mem hp)
    rw [← he₂, hcurrent] at hproceeds
    have hcall₂ := hproceeds.goes.self hcall₁
    have he₂' := he₁.step _ hstep
    obtain ⟨e₃, preferAnswer', e₄, call₃, answer, taken, hpasses, hcall₃, hphase₃, htakes, hgranted,
      hreturns⟩ := exists_step_of_announcing he₂' hrest hcall₂ rfl hregistered₁ hcall' hended
    obtain ⟨before, after, -, hreach, -⟩ := hpasses.split
    obtain ⟨call₃', hcall₃', -, hsame⟩ := exists_call_of_run hreach hcall₂
    cases hcall₃.symm.trans hcall₃'
    have hown := eventsOf_of_announcing he₁ hcall₁ hphase₁ hregistered₁ hproceeds.toNotes he₂'
      hreach hcall₃ hphase₃ (hsame.trans hregistered₁)
    exact .announced (liveSession_of_announcement? he₁ hdue).session hfull hmine hproceeds.events
      hcurrent hpasses hown htakes hgranted hreturns
  · -- nothing is due
    have hreturns := he₂.trans heq
    rcases unnamed_or_isEmpty (wellFormed_of_reachable he₁) hready hnothing with hunnamed | hempty
    · exact .unnamed hunnamed hreturns
    · refine .emptied hempty (hmem.resolve_left fun hp => ?_) hreturns
      have hactive := e₁.registry.mem_activeTopics.2 (List.ne_nil_of_mem hp)
      rw [e₁.registry.activeTopics_of_isEmpty hempty] at hactive
      cases hactive

end Course

/-- What a subscription that returns a registration has done and seen, whatever happens around it.
The key is that of the topic with its options, and the id was never issued before. The run passes a
step of the call before which the session was ready, with the client id of the last greeting that
the current worker had read from its stream, and either the greeting had given no client id, or
there were no topics any more, as others had taken out the registration; or else the call has sent,
in that step, an announcement for that client id of all topics, its own among them unless others had
taken it out, and has returned after a step in which it has taken that the announcement had
succeeded or been given up, or has not looked at an answer because the worker of the session had
been given up or replaced. No error that it has taken in the run as the answer to its announcement
is another than that it was given up. -/
theorem subscribed_means {settings : Settings} {credential : Option String} {e e₀ e' : Engine}
    {topic : String} {options : Options} {listener : Listener} {actions : List Action}
    (he : Reachable settings credential e)
    (hstart : e.step (.start (.subscribe topic options listener)) = some e₀)
    (hrun : e₀.run actions = some e') {call : Call} {key : String} {id : ListenerId}
    (hcall : e'.calls[e.calls.length]? = some call)
    (hended : call.phase = .ended (.subscribed key id)) :
    let c := e.calls.length
    key = options.topicKey topic ∧ id = ⟨e.registry.issued + 1⟩ ∧
    (∀ c' key', .registered c' key' id ∉ e.events) ∧
    (∃ before preferAnswer after e₁ e₂,
      actions = before ++ .resume (.call c) preferAnswer :: after ∧ e₀.run before = some e₁ ∧
      e₁.step (.resume (.call c) preferAnswer) = some e₂ ∧ e₂.run after = some e' ∧
      e₁.ready = true ∧ e₁.session.ready = true ∧
      (∃ w serial, e₁.slot = some w ∧ lastStream? w e₁.events = some serial ∧
        lastGreeting? w serial e₁.events = some e₁.session.clientId) ∧
      Confirmation c key id (TakenOut e₀ before e₁ c key (id, listener)) e₁ e₂ after e') ∧
    ∀ f₁ preferAnswer f₂ call₁ watched answer error,
      e₀.Passes actions e' f₁ (.resume (.call c) preferAnswer) f₂ → f₁.calls[c]? = some call₁ →
      call₁.phase = .announcing watched answer →
      f₁.takeAnswer watched answer preferAnswer = some (some (.failure error)) →
      error.isAbort = true := by
  intro c
  have he₀ : Reachable settings credential e₀ := he.step _ hstart
  obtain rfl : e.beginCall (.subscribe topic options listener) true = e₀ := by
    cases stepMove_of_step hstart with
    | start alive request => rfl
  have htopic := topic_ne_of_subscribed hrun hcall hended
  obtain ⟨hregistry, call₀, hcall₀, -, hregistered, -⟩ :=
    beginCall_subscribe e htopic options listener true
  obtain ⟨call₀', deadline, hcall₀', hphase₀⟩ := beginCall_awaits e htopic options listener true
  cases hcall₀.symm.trans hcall₀'
  -- what the call returns is what it has registered
  cases hregistered.symm.trans (registered_of_subscribed he₀ hrun hcall₀ hcall hended)
  refine ⟨rfl, rfl, fun c' key' => registered_not_mem he (Nat.lt_succ_self _), ?_,
    fun f₁ preferAnswer f₂ call₁ watched answer error hpasses =>
      isAbort_of_takeAnswer hcall₀ hregistered hcall hended hpasses⟩
  obtain ⟨e₁, preferAnswer, e₂, call₁, deadline', hpasses, hcall₁, hphase₁, hregistered₁, hready,
    he₂⟩ := exists_step_of_awaiting hrun hcall₀ hphase₀ hregistered hcall hended
  have he₁ := hpasses.reachable he₀
  have hsession := sessionInv_of_reachable he₁
  have hlive : e₁.session.ready = true := hsession.ready.symm.trans hready
  obtain ⟨w, -, serial, hslot, -, -, hstream, hgreeting⟩ := exists_greeting_of_ready hsession hlive
  obtain ⟨before, after, hsplit, hbefore, hafter⟩ := hpasses.split
  have hmem : (⟨e.registry.issued + 1⟩, listener) ∈
      (e.beginCall (.subscribe topic options listener) true).registry.entries
        (options.topicKey topic) := by
    rw [hregistry, Registry.entries_add, if_pos rfl]
    exact List.mem_append_right _ (List.mem_singleton_self _)
  have hthere := mem_or_takenOut hbefore ((run_cons hpasses.step after).trans hafter) hcall₀
    hregistered hmem hcall hended
  exact ⟨before, preferAnswer, after, e₁, e₂, hsplit, hbefore, hpasses.step, hafter, hready, hlive,
    ⟨w, serial, hslot, hstream, hgreeting⟩, confirmation_of_ready he₁ hpasses.step hafter hcall₁
      hphase₁ hregistered₁ hlive he₂ hthere hcall hended⟩

/-- The registration that a call has returned. -/
def Call.Phase.returned? : Call.Phase → Option (String × ListenerId)
  | .ended (.subscribed key id) => some (key, id)
  | _ => none

theorem eq_ended_of_returned? {phase : Call.Phase} {key : String} {id : ListenerId}
    (h : phase.returned? = some (key, id)) : phase = .ended (.subscribed key id) := by
  unfold Call.Phase.returned? at h
  split at h
  · cases h
    rfl
  · cases h

/-- The client disconnects while the announcement of a subscription is held. -/
def cutShort : List Action :=
  openingActions 0 0 (greetingBytes "c1") ++
    [.resume (.worker 0) true, .resume (.call 0) true, .start .disconnect, .resume (.call 0) true]

/-- The subscription returns its registration, and has sent an announcement before. -/
theorem subscribed_means_cutShort :
    ∃ e₀ e' call, (Engine.initial .sample none).step
        (.start (.subscribe "news" .none (.sample "reader" false))) = some e₀ ∧
      e₀.run cutShort = some e' ∧ e'.calls[0]? = some call ∧
      call.phase = .ended (.subscribed "news" ⟨1⟩) ∧ e'.session.ready = false ∧
      e'.posts.length = 2 ∧
      ∃ before after e₁ e₂, e₁.session.ready = true ∧
        Confirmation 0 "news" ⟨1⟩
          (TakenOut e₀ before e₁ 0 "news" (⟨1⟩, .sample "reader" false)) e₁ e₂ after e' := by
  obtain ⟨e', hrun, hend⟩ := exists_run (.initial .sample none)
    (.start (.subscribe "news" .none (.sample "reader" false)) :: cutShort)
    (fun e => !e.session.ready && e.posts.length = 2 &&
      e.calls[0]?.bind (·.phase.returned?) = some ("news", ⟨1⟩)) (by decide +kernel)
  simp only [Bool.and_eq_true, Bool.not_eq_true', decide_eq_true_eq] at hend
  obtain ⟨⟨hlost, hposts⟩, hreturned⟩ := hend
  obtain ⟨call, hcall, hphase⟩ := Option.bind_eq_some_iff.1 hreturned
  have hended := eq_ended_of_returned? hphase
  obtain ⟨e₀, hstart, hrun₀⟩ := Option.bind_eq_some_iff.1 hrun
  obtain ⟨-, -, -, ⟨before, -, after, e₁, e₂, -, -, -, -, -, hready, -, hconfirmation⟩, -⟩ :=
    subscribed_means .initial hstart hrun₀ hcall hended
  exact ⟨e₀, e', call, hstart, hrun₀, hcall, hended, hlost, hposts, before, after, e₁, e₂, hready,
    hconfirmation⟩

end TopicStream.Engine
