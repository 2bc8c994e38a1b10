import TopicStream.Proofs.Engine.Calls
import TopicStream.Proofs.Engine.Delivery
import TopicStream.Proofs.Engine.Lifetime

/-!
# Subscriptions that fail

A subscription that fails has undone its registration before it returns, with one step of its own:
the registration is taken out, or has been taken out by somebody else; nothing else is; and the
worker is given up if no topic is left, or else what is left is announced if the session can
register (`Undone`). What comes of that announcement does not matter for the error. A subscription
without a topic fails before it does anything.

## Main results

* `undone_of_callMove`: only an undone registration settles that a subscription fails;
* `exists_undone_of_failed`: so a run in which it fails passes the step that undoes it;
* `failed_subscription`: what a subscription does to the registrations, whether it fails or not, and
  what has become of its own if it has failed.
-/

namespace TopicStream.Engine

open Subscription

/-! ### What undoing a registration does -/

/-- Why a subscription fails. -/
inductive Failed (e : Engine) (call : Call) (error : ClientError) : Prop
  /-- It has waited for the greeting as long as it may, and the flag is down. -/
  | late {deadline : Nat} (phase : call.phase = .awaiting deadline) (due : deadline ≤ e.now)
      (waits : e.ready = false)
      (timeout : error = .connectTimeout e.settings.url
        (min e.settings.connectTimeout Duration.maxMillis))
  /-- Its announcement has been answered with an error that counts. -/
  | refused {watched : Option Nat}
      (phase : call.phase = .announcing watched (some (.failure error)))
      (counted : counts error = true)

/-- A call has undone a registration. -/
structure Undone (e e' : Engine) (c : Nat) (key : String) (id : ListenerId) : Prop where
  /-- The registration is taken out, if it is still there. -/
  registry : e'.registry = (e.registry.removeListener key id).2
  /-- If no topic is left, the worker in the slot, if any, is given up by the call. -/
  retired : e'.registry.isEmpty = true → e'.slot = none ∧ ∀ w, e.slot = some w →
    e'.events = e.events ++ [.retired w (some c)] ∧
      ∃ k, e'.workers[w]? = some k ∧ k.cancelled = true
  /-- If topics are left and the session can register, the call announces them. -/
  announced : e'.registry.isEmpty = false → e.session.canRegister = true →
    e'.events = e.events ++
      [.announced (.call c) e.session.clientId e'.registry.activeTopics]

section Undone

variable {e : Engine}

/-- A call that tears the connection down gives up the worker in the slot. -/
theorem events_beginDisconnect {w : Nat} (hslot : e.slot = some w) (c : Nat) (outcome : Outcome) :
    (e.beginDisconnect c outcome).events = e.events ++ [.retired w (some c)] := by
  simp only [beginDisconnect, takeWorker, hslot]
  exact events_note _ _

theorem core_beginDisconnect {w : Nat} (hslot : e.slot = some w) (c : Nat) (outcome : Outcome) :
    (e.beginDisconnect c outcome).core = e.core.retire w := by
  unfold beginDisconnect
  split
  · rename_i w' e' htake
    obtain ⟨hslot', hcore⟩ := core_of_takeWorker e htake
    cases hslot.symm.trans hslot'
    exact hcore
  · rename_i htake
    rw [slot_eq_none_of_takeWorker htake] at hslot
    cases hslot

/-- The worker is told to end. -/
theorem exists_cancelled_beginDisconnect (hinv : e.core.SlotInv) {w : Nat}
    (hslot : e.slot = some w) (c : Nat) (outcome : Outcome) :
    ∃ k, (e.beginDisconnect c outcome).workers[w]? = some k ∧ k.cancelled = true := by
  obtain ⟨k, hk, -, -⟩ := hinv.slot_some w hslot
  have hworkers : (e.beginDisconnect c outcome).workers = (e.core.retire w).workers :=
    congrArg Core.workers (core_beginDisconnect hslot c outcome)
  refine ⟨{ k with cancelled := true }, ?_, rfl⟩
  rw [hworkers, Core.retire, List.getElem?_modify_eq, hk]
  rfl

theorem undone_rollBack (hinv : e.core.SlotInv) (hwf : e.registry.WellFormed) (c : Nat)
    (key : String) (id : ListenerId) (error : ClientError) :
    Undone e (e.rollBack c key id error) c key id := by
  let e₁ := { e with registry := (e.registry.removeListener key id).2 }
  have hregistry : (e.rollBack c key id error).registry = e₁.registry :=
    registry_rollBack e c key id error
  constructor
  case registry => exact hregistry
  case retired =>
    intro hempty
    rw [hregistry] at hempty
    -- the last topic is gone: the call tears the connection down
    rw [rollBack_of_isEmpty e hempty]
    refine ⟨slot_beginDisconnect e₁ c _, fun w hslot => ?_⟩
    exact ⟨events_beginDisconnect (e := e₁) hslot c _,
      exists_cancelled_beginDisconnect (e := e₁) hinv hslot c _⟩
  case announced =>
    intro htopics hcan
    rw [hregistry] at htopics ⊢
    -- topics are left, and the undoing has not touched the session, so that they are due
    have hdue : e₁.announcement? = some (e.session.clientId, e₁.registry.activeTopics) :=
      announcement?_of_topics (e := e₁) (hwf.removeListener key id) hcan htopics
    have hannounce : e₁.announce? (.call c) = some
        (e₁.note (.announced (.call c) e.session.clientId e₁.registry.activeTopics)) := by
      rw [announce?, hdue]
      rfl
    have hnot : ¬ e₁.registry.isEmpty = true := by
      rw [htopics]
      exact Bool.false_ne_true
    have hrestore : e.rollBack c key id error =
        (e₁.note (.announced (.call c) e.session.clientId e₁.registry.activeTopics)).setCall c
          (.restoring error e₁.slot none) := by
      refine (if_neg hnot).trans ?_
      rw [hannounce]
    rw [hrestore]
    exact events_note e₁ _

end Undone

/-! ### Steps of a subscription -/

section Steps

variable {e e' : Engine} {c : Nat} {call call' : Call} {key : String} {id : ListenerId}
  {error : ClientError}

/-- Only an undone registration settles that a subscription fails. -/
theorem undone_of_callMove {topic : String} {options : Options} {listener : Listener}
    (h : CallMove e c call e') (hcall : e.calls[c]? = some call)
    (hrequest : call.request = .subscribe topic options listener)
    (hregistered : call.registered = some (key, id)) (hcall' : e'.calls[c]? = some call')
    (hfails : call'.phase.result? = some (.failed error)) :
    call.phase.result? = some (.failed error) ∨
      (Failed e call error ∧ e' = e.rollBack c key id error) := by
  -- the call is afterwards in the phase to which it has gone on
  have hphase {phase : Call.Phase} (hgoes : Goes e e' c phase) :
      phase.result? = some (.failed error) := by
    cases (hgoes.self hcall).symm.trans hcall'
    exact hfails
  cases h with
  | @announce _ key' id' _ ready subscriber =>
    let otherwise (e : Engine) := e.endCall c (.subscribed key' id')
    obtain ⟨phase, hgoes, hnew⟩ := goes_announceFor e c otherwise ⟨_, goes_endCall e c _, rfl⟩
    have hresult := hphase hgoes
    rcases hnew with rfl | rfl <;> cases hresult
  -- a call that has registered something neither just waits nor removes
  | greeted _ _ waiter | timeOut _ _ _ waiter =>
    rw [hregistered] at waiter
    cases waiter
  | @undo key' id' error' subscriber cause =>
    cases hregistered.symm.trans subscriber
    -- the error of the undoing is the one that the call returns
    obtain ⟨phase, hgoes, hresult⟩ := goes_rollBack e c key id error'
    cases hresult.symm.trans (hphase hgoes)
    refine .inr ⟨?_, rfl⟩
    rcases cause with ⟨deadline, hdue, hawaits, hwaits, herror⟩ | ⟨watched, hrefused, hcounts⟩
    · simp only [hrequest, timeoutError, Duration.toMillis_ofMillis] at herror
      exact .late hawaits hdue hwaits herror
    · exact .refused hrefused hcounts
  | subscribed phase subscriber cause => cases hphase (goes_endCall e c _)
  | conclude phase remover cause =>
    rw [hregistered] at remover
    cases remover
  -- the error has been settled before; the answer to the announcement of what is left is dropped
  | restored phase =>
    have hresult := hphase (goes_endCall e c _)
    exact .inl (by rw [phase]; exact hresult)
  | crash phase => cases hphase (goes_endCall e c _)
  | join phase ended =>
    have hresult := hphase (goes_concludeDisconnect e c _)
    exact .inl (by rw [phase]; exact hresult)

/-- A subscription that goes on takes out no registration but its own. -/
theorem sameBut_of_callMove (h : CallMove e c call e')
    (hregistered : call.registered = some (key, id)) : e.registry.SameBut id e'.registry := by
  have hkeep {r : Registry Listener} (hsame : r = e.registry) : e.registry.SameBut id r := by
    intro topic
    rw [hsame]
  cases h with
  | announce phase ready subscriber => exact hkeep (registry_announceFor e c rfl)
  | undo subscriber cause =>
    cases hregistered.symm.trans subscriber
    rw [registry_rollBack]
    exact e.registry.sameBut_removeListener key id
  | conclude phase remover cause => exact hkeep (registry_concludeRemoval e c _)
  | join phase ended => exact hkeep (registry_concludeDisconnect e c _)
  | greeted | timeOut | subscribed | restored | crash => exact hkeep rfl

end Steps

/-! ### The beginning of a subscription -/

/-- A subscription without a topic fails before it does anything. -/
theorem beginCall_unset (e : Engine) (options : Options) (listener : Listener) (borrows : Bool) :
    let e₀ := e.beginCall (.subscribe "" options listener) borrows
    let unset := Outcome.failed (.invalidArgument "topic must be set")
    e₀.registry = e.registry ∧ e₀.core = e.core ∧
      e₀.events = e.events ++ [.returned e.calls.length unset] ∧
      ∃ call, e₀.calls = e.calls ++ [call] ∧ call.phase = .ended unset := by
  refine ⟨rfl, ?_, ?_, _, rfl, rfl⟩
  · exact core_note_of_isCallers _ rfl
  · exact events_note _ _

/-- A subscription to a topic registers its listener, under an id that was never issued before, and
waits for the greeting. -/
theorem beginCall_subscribe (e : Engine) {topic : String} (htopic : topic ≠ "") (options : Options)
    (listener : Listener) (borrows : Bool) :
    (e.beginCall (.subscribe topic options listener) borrows).registry =
        (e.registry.add (options.topicKey topic) listener).2 ∧
      ∃ call,
        (e.beginCall (.subscribe topic options listener) borrows).calls[e.calls.length]? =
          some call ∧
        call.request = .subscribe topic options listener ∧
        call.registered = some (options.topicKey topic, ⟨e.registry.issued + 1⟩) ∧
        call.phase.result? = none := by
  refine ⟨?_, _, getElem?_beginCall_subscribe e htopic options listener borrows, rfl, rfl, rfl⟩
  rw [beginCall_subscribe_eq e htopic]
  exact registry_ensureWorker (e.withRegistration topic options listener)

/-! ### The course of a subscription -/

section Run

variable {e e' : Engine} {actions : List Action} {c : Nat} {call call' : Call}

/-- A run in which a subscription fails passes the step that undoes its registration, for the error
with which it fails. -/
theorem exists_undone_of_failed {topic key : String} {options : Options} {listener : Listener}
    {id : ListenerId} {error : ClientError} (hrun : e.run actions = some e')
    (hcall : e.calls[c]? = some call) (hrequest : call.request = .subscribe topic options listener)
    (hregistered : call.registered = some (key, id)) (hopen : call.phase.result? = none)
    (hcall' : e'.calls[c]? = some call') (hfails : call'.phase.result? = some (.failed error)) :
    ∃ e₁ preferAnswer e₂ call₁, e.Passes actions e' e₁ (.resume (.call c) preferAnswer) e₂ ∧
      e₁.calls[c]? = some call₁ ∧ Failed e₁ call₁ error ∧ e₂ = e₁.rollBack c key id error := by
  -- the step with which it is settled that the call fails: only a move of the call itself can be
  -- that step, and of its moves only the undoing of its registration
  let settled (e : Engine) : Prop :=
    ∃ call, e.calls[c]? = some call ∧ call.phase.result? = some (.failed error)
  have hnot : ¬ settled e := by
    rintro ⟨call₀, hcall₀, hsettled⟩
    cases hcall.symm.trans hcall₀
    rw [hopen] at hsettled
    cases hsettled
  obtain ⟨e₁, action, e₂, hpasses, hbefore, call₂, hcall₂, hsettled⟩ :=
    exists_passes (p := settled) hrun hnot ⟨call', hcall', hfails⟩
  obtain ⟨before, -, -, hreach, -⟩ := hpasses.split
  obtain ⟨call₁, hcall₁, hrequest₁, hregistered₁⟩ := exists_call_of_run hreach hcall
  obtain ⟨call₂', hcall₂', -, -, hstep⟩ := callStep_of_step hpasses.step hcall₁
  cases hcall₂.symm.trans hcall₂'
  cases hstep with
  | keep phase =>
    rw [phase] at hsettled
    exact absurd ⟨call₁, hcall₁, hsettled⟩ hbefore
  | answer answer phase =>
    rw [phase, result?_withAnswer] at hsettled
    exact absurd ⟨call₁, hcall₁, hsettled⟩ hbefore
  | move preferAnswer move =>
    rcases undone_of_callMove move hcall₁ (hrequest₁.trans hrequest)
      (hregistered₁.trans hregistered) hcall₂ hsettled with hresult | ⟨hfailed, hundone⟩
    · exact absurd ⟨call₁, hcall₁, hresult⟩ hbefore
    · exact ⟨e₁, preferAnswer, e₂, call₁, hpasses, hcall₁, hfailed, hundone⟩

/-- A registration that was there once is withdrawn when it is taken out, whether it is still there
or not. -/
theorem withdrawn_removeListener {r r' : Registry Listener} (h : RegistryRun r r')
    (hr : r.WellFormed) {key : String} {p : ListenerId × Listener} (hp : p ∈ r.entries key) :
    (r'.removeListener key p.1).2.Withdrawn p.1 := by
  have hissued := r'.issued_removeListener key p.1
  have hsub := fun topic => r'.entries_removeListener_sublist key topic p.1
  rcases h.mem_or_withdrawn hr hp with hmem | hid
  · refine (h.wellFormed hr).withdrawn_of_sublist hissued hsub hmem fun hout => ?_
    rw [Registry.entries_removeListener, if_pos rfl, List.mem_filter] at hout
    simp at hout
  · exact hid.of_sublist hissued hsub

/-- A step of a subscription in the course of a run takes out no registration but its own. -/
theorem sameBut_of_passes {key : String} {id : ListenerId} (hcall : e.calls[c]? = some call)
    (hregistered : call.registered = some (key, id)) {e₁ e₂ : Engine} {preferAnswer : Bool}
    (hpasses : e.Passes actions e' e₁ (.resume (.call c) preferAnswer) e₂) :
    e₁.registry.SameBut id e₂.registry := by
  obtain ⟨before, -, -, hreach, -⟩ := hpasses.split
  obtain ⟨call₁, hcall₁, -, hregistered₁⟩ := exists_call_of_run hreach hcall
  obtain ⟨call₁', hcall₁', hmove⟩ := callMove_resumeCall hpasses.step
  cases hcall₁.symm.trans hcall₁'
  exact sameBut_of_callMove hmove (hregistered₁.trans hregistered)

/-- A registration that is undone in the course of a run is withdrawn at the end of the run. -/
theorem withdrawn_of_undone {key : String} {p : ListenerId × Listener}
    (hwf : e.registry.WellFormed) (hp : p ∈ e.registry.entries key) {e₁ e₂ : Engine}
    {action : Action} (hpasses : e.Passes actions e' e₁ action e₂)
    (hundone : Undone e₁ e₂ c key p.1) : e'.registry.Withdrawn p.1 := by
  obtain ⟨before, after, -, hbefore, hafter⟩ := hpasses.split
  have hwithdrawn := withdrawn_removeListener (registryRun_of_run hbefore) hwf hp
  rw [← hundone.registry] at hwithdrawn
  -- an id that is withdrawn stays so
  exact (registryRun_of_run hafter).withdrawn hwithdrawn

end Run

/-- A subscription that fails leaves no trace, whatever happens around it. Without a topic it fails
at once, and neither the registrations nor the count of issued ids nor the worker nor the transport
are touched. With a topic it registers its listener under a new id, and at no step does it take out
any registration but that one. If it fails with an error, the registration is withdrawn for good,
and the run has passed a step of the call that has undone it because of that error: with that step
the worker was given up if no topic was left, and else the topics left were announced if the session
could register. -/
theorem failed_subscription {settings : Settings} {credential : Option String} {e e₀ : Engine}
    {topic : String} {options : Options} {listener : Listener}
    (he : Reachable settings credential e)
    (hstart : e.step (.start (.subscribe topic options listener)) = some e₀) :
    let c := e.calls.length
    let key := options.topicKey topic
    let id : ListenerId := ⟨e.registry.issued + 1⟩
    let unset := Outcome.failed (.invalidArgument "topic must be set")
    (topic = "" →
      e₀.registry = e.registry ∧ e₀.core = e.core ∧ e₀.events = e.events ++ [.returned c unset] ∧
      ∃ call, e₀.calls = e.calls ++ [call] ∧ call.phase = .ended unset) ∧
    (topic ≠ "" →
      (id, listener) ∈ e₀.registry.entries key ∧ e.registry.SameBut id e₀.registry ∧
      ∀ actions e', e₀.run actions = some e' →
        (∀ e₁ preferAnswer e₂,
          e₀.Passes actions e' e₁ (.resume (.call c) preferAnswer) e₂ →
            e₁.registry.SameBut id e₂.registry) ∧
        ∀ call error, e'.calls[c]? = some call → call.phase = .ended (.failed error) →
          (∀ more e'', e'.run more = some e'' → e''.registry.Withdrawn id) ∧
          ∃ e₁ preferAnswer e₂ call₁,
            e₀.Passes actions e' e₁ (.resume (.call c) preferAnswer) e₂ ∧
            e₁.calls[c]? = some call₁ ∧ Failed e₁ call₁ error ∧ Undone e₁ e₂ c key id) := by
  intro c key id unset
  have he₀ : Reachable settings credential e₀ := he.step _ hstart
  obtain rfl : e.beginCall (.subscribe topic options listener) true = e₀ := by
    cases stepMove_of_step hstart with
    | start alive request => rfl
  refine ⟨?_, fun htopic => ?_⟩
  -- without a topic
  · rintro rfl
    exact beginCall_unset e options listener true
  -- with a topic: what the beginning of the call has registered is followed along the run
  · obtain ⟨hregistry, call₀, hcall₀, hrequest, hregistered, hopen⟩ :=
      beginCall_subscribe e htopic options listener true
    have hmem : (id, listener) ∈
        (e.beginCall (.subscribe topic options listener) true).registry.entries key := by
      rw [hregistry, Registry.entries_add, if_pos rfl]
      exact List.mem_append_right _ (List.mem_singleton_self _)
    refine ⟨hmem, ?_, fun actions e' hrun => ⟨?_, ?_⟩⟩
    · rw [hregistry]
      exact e.registry.sameBut_add key listener
    · exact fun e₁ preferAnswer e₂ hpasses => sameBut_of_passes hcall₀ hregistered hpasses
    · intro call error hcall hphase
      have hfails : call.phase.result? = some (.failed error) := by
        rw [hphase]
        rfl
      obtain ⟨e₁, preferAnswer, e₂, call₁, hpasses, hcall₁, hfailed, rfl⟩ :=
        exists_undone_of_failed hrun hcall₀ hrequest hregistered hopen hcall hfails
      have he₁ := hpasses.reachable he₀
      have hundone := undone_rollBack (slotInv_of_reachable he₁) (wellFormed_of_reachable he₁)
        c key id error
      refine ⟨fun more e'' hmore => ?_, e₁, preferAnswer, _, call₁, hpasses, hcall₁, hfailed,
        hundone⟩
      exact (registryRun_of_run hmore).withdrawn
        (withdrawn_of_undone (wellFormed_of_reachable he₀) hmem hpasses hundone)

/-- The error with which a call has failed. -/
def Call.Phase.error? : Call.Phase → Option ClientError
  | .ended (.failed error) => some error
  | _ => none

theorem eq_ended_of_error? {phase : Call.Phase} {error : ClientError}
    (h : phase.error? = some error) : phase = .ended (.failed error) := by
  unfold Call.Phase.error? at h
  split at h
  · cases h
    rfl
  · cases h

/-- A second listener is registered under the topic while the announcement of the first is held. It
is refused, and so is the announcement of what is left. -/
def refusedTwice : List Action :=
  openingActions 0 0 (greetingBytes "c1") ++
    [.resume (.worker 0) true, .start (.subscribe "news" .none (.sample "second" false)),
      .resume (.call 0) true, .answer (.call 0) (.failure (.other "refused")),
      .resume (.call 0) true, .answer (.call 0) (.failure (.other "down")),
      .resume (.call 0) true]

/-- The first registration is withdrawn, the second stays, and the first error is returned. -/
theorem failed_subscription_refusedTwice :
    ∃ e₀ e' call error,
      (Engine.initial .sample none).step
        (.start (.subscribe "news" .none (.sample "first" false))) = some e₀ ∧
      e₀.run refusedTwice = some e' ∧ e'.calls[0]? = some call ∧
      call.phase = .ended (.failed error) ∧ error.message = "refused" ∧
      e'.registry.Withdrawn ⟨1⟩ ∧
      (e'.registry.entries "news").map (·.1.number) = [2] ∧
      ∃ e₁ e₂ call₁, Failed e₁ call₁ error ∧
        Undone e₁ e₂ 0 (Options.none.topicKey "news") ⟨1⟩ := by
  obtain ⟨e', hrun, hend⟩ := exists_run (.initial .sample none)
    (.start (.subscribe "news" .none (.sample "first" false)) :: refusedTwice)
    (fun e => (e.registry.entries "news").map (·.1.number) = [2] &&
      (e.calls[0]?.bind (·.phase.error?)).any (·.message = "refused")) (by decide +kernel)
  obtain ⟨hleft, hrefused⟩ := Bool.and_eq_true_iff.1 hend
  obtain ⟨error, herror, hmessage⟩ := (Option.any_eq_true _ _).1 hrefused
  obtain ⟨call, hcall, hphase⟩ := Option.bind_eq_some_iff.1 herror
  have hended := eq_ended_of_error? hphase
  obtain ⟨e₀, hstart, hrun₀⟩ := Option.bind_eq_some_iff.1 hrun
  obtain ⟨-, hfails⟩ := failed_subscription .initial hstart
  obtain ⟨-, -, hcourse⟩ := hfails (by decide)
  obtain ⟨hwithdrawn, e₁, -, e₂, call₁, -, -, hfailed, hundone⟩ :=
    (hcourse _ e' hrun₀).2 call error hcall hended
  exact ⟨e₀, e', call, error, hstart, hrun₀, hcall, hended, of_decide_eq_true hmessage,
    hwithdrawn [] e' rfl, of_decide_eq_true hleft, e₁, e₂, call₁, hfailed, hundone⟩

end TopicStream.Engine
