import TopicStream.Proofs.Engine.Notes

/-!
# The accounts of calls

What the log tells of a call goes with the phase in which the call is (`Account`). Until its outcome
is settled it has registered its listener, if it was asked to, announced once at most, and been
answered once at most. How its outcome is settled is told by that part alone (`Settled`), and what
it does afterwards, tearing the connection down or announcing what is left, changes the outcome no
more (`Aftermath`), unless the transport crashes under it.

## Main results

* `continues_of_callMove`: a call that goes on keeps its account in order;
* `accounts_of_reachable`: the accounts of all calls are in order in every reachable state;
* `exists_begins_of_run`: a call that is there has been begun with the request that it has.
-/

namespace TopicStream.Engine

open Subscription

/-! ### Requests -/

/-- Whether a request is a subscription without a topic. -/
def Request.isUnset : Request → Bool
  | .subscribe topic _ _ => topic = ""
  | .ensureConnected _ | .disconnect | .remove _ => false

/-- How long a request may wait for the greeting, if it waits for it at all. -/
def Request.patience? (s : Settings) : Request → Option Duration
  | .subscribe topic _ _ => if topic = "" then none else some (.ofMillis s.connectTimeout)
  | .ensureConnected patience => some patience
  | .disconnect | .remove _ => none

/-- Whether a request changes the topics, which are then announced. -/
def Request.isAboutTopics : Request → Bool
  | .subscribe topic _ _ => topic ≠ ""
  | .remove _ => true
  | .ensureConnected _ | .disconnect => false

/-- A request registers a listener exactly if it is a subscription to a topic, and then under the
key of the topic. -/
def Request.Registers : Request → Option (String × ListenerId) → Prop
  | .subscribe topic _ _, none => topic = ""
  | .subscribe topic options _, some (key, _) => topic ≠ "" ∧ key = options.topicKey topic
  | _, registered => registered = none

/-- A request that waits for the greeting is no subscription without a topic. -/
theorem isUnset_of_patience? {s : Settings} {request : Request} {patience : Duration}
    (h : request.patience? s = some patience) : request.isUnset = false := by
  cases request with
  | subscribe topic options listener =>
    simp only [Request.patience?] at h
    split at h
    · cases h
    · rename_i htopic
      exact decide_eq_false htopic
  | ensureConnected | disconnect | remove => rfl

/-- A request that is about topics is no subscription without a topic. -/
theorem isUnset_of_isAboutTopics {request : Request} (h : request.isAboutTopics = true) :
    request.isUnset = false := by
  cases request with
  | subscribe topic options listener =>
    have htopic : topic ≠ "" := of_decide_eq_true h
    exact decide_eq_false htopic
  | ensureConnected | disconnect | remove => rfl

/-- A request that has registered a listener is about topics. -/
theorem Request.Registers.isAboutTopics {request : Request}
    {registered : Option (String × ListenerId)} (h : request.Registers registered)
    (hsome : registered.isSome = true) : request.isAboutTopics = true := by
  cases request with
  | subscribe topic options listener =>
    cases registered with
    | none => cases hsome
    | some p => exact decide_eq_true h.1
  | remove => rfl
  | ensureConnected | disconnect =>
    rw [show registered = none from h] at hsome
    cases hsome

/-! ### Accounts -/

section Account

variable (s : Settings) (c : Nat) (request : Request) (registered : Option (String × ListenerId))

/-- What a call notes before anything else: its registration, if it has one. -/
def preamble : List Event := registered.toList.map fun (key, id) => .registered c key id

/-- How a call ends that has done what it was asked. -/
def success : Outcome :=
  match registered with
  | some (key, id) => .subscribed key id
  | none => .done

/-- The log of a call at the point at which it is settled how the call ends. -/
inductive Settled : List Event → Outcome → Prop
  /-- The greeting has not come in time. -/
  | late {patience : Duration} (waits : request.patience? s = some patience) :
      Settled (preamble c registered) (.failed (.connectTimeout s.url patience.toMillis))
  /-- Its announcement has been answered with an error that counts. -/
  | refused {clientId : String} {topics : List String} {error : ClientError}
      (topical : request.isAboutTopics = true) (counted : counts error = true) :
      Settled
        (preamble c registered ++
          [.announced (.call c) clientId topics, .answered (.call c) (.failure error)])
        (.failed error)
  /-- It has done what it was asked, and there was nothing to announce. -/
  | undue (sound : request.isUnset = false) :
      Settled (preamble c registered) (success registered)
  /-- Its announcement counts as made, with an answer or cut short. -/
  | announced {clientId : String} {topics : List String} {answer : Option Answer}
      (topical : request.isAboutTopics = true) :
      Settled
        (preamble c registered ++
          .announced (.call c) clientId topics :: answer.toList.map (.answered (.call c)))
        (success registered)

/-- Where a call stands that will end with an outcome, and what it has noted since that is
settled. -/
inductive Aftermath : Outcome → Call.Phase → List Event → Prop
  /-- It has ended. -/
  | ended (outcome : Outcome) : Aftermath outcome (.ended outcome) [.returned c outcome]
  /-- It waits for the worker that it has given up. -/
  | joining {w : Nat} {outcome : Outcome} (bare : ∀ key id, outcome ≠ .subscribed key id) :
      Aftermath outcome (.joining w outcome) [.retired w (some c)]
  /-- It has ended after that worker. -/
  | joined {w : Nat} {outcome : Outcome} (bare : ∀ key id, outcome ≠ .subscribed key id) :
      Aftermath outcome (.ended outcome) [.retired w (some c), .returned c outcome]
  /-- It has undone its registration and announced what is left. -/
  | restoring {error : ClientError} {watched : Option Nat} {answer : Option Answer}
      {clientId : String} {topics : List String} (undone : registered.isSome = true) :
      Aftermath (.failed error) (.restoring error watched answer)
        (.announced (.call c) clientId topics :: answer.toList.map (.answered (.call c)))
  /-- It has ended after that. -/
  | restored {error : ClientError} {answer : Option Answer} {clientId : String}
      {topics : List String} (undone : registered.isSome = true) :
      Aftermath (.failed error) (.ended (.failed error))
        ((.announced (.call c) clientId topics :: answer.toList.map (.answered (.call c))) ++
          [.returned c (.failed error)])

/-- What the log tells of a call in a phase. -/
inductive Account : Call.Phase → List Event → Prop
  /-- It is a subscription without a topic, which ends as it begins. -/
  | unset (unset : request.isUnset = true) :
      Account (.ended (.failed (.invalidArgument "topic must be set")))
        [.returned c (.failed (.invalidArgument "topic must be set"))]
  /-- It waits for the greeting. -/
  | awaiting {deadline : Nat} {patience : Duration}
      (waits : request.patience? s = some patience) :
      Account (.awaiting deadline) (preamble c registered)
  /-- It has announced its topics. -/
  | announcing {watched : Option Nat} {answer : Option Answer} {clientId : String}
      {topics : List String} (topical : request.isAboutTopics = true) :
      Account (.announcing watched answer)
        (preamble c registered ++
          .announced (.call c) clientId topics :: answer.toList.map (.answered (.call c)))
  /-- It is settled how it ends. -/
  | settled {before after : List Event} {outcome : Outcome} {phase : Call.Phase}
      (settled : Settled s c request registered before outcome)
      (aftermath : Aftermath c registered outcome phase after) :
      Account phase (before ++ after)
  /-- The transport has crashed under its announcement. -/
  | crashed {clientId : String} {topics : List String} (topical : request.isAboutTopics = true) :
      Account (.ended .crashed)
        (preamble c registered ++ [.announced (.call c) clientId topics,
          .answered (.call c) .crash, .returned c .crashed])
  /-- The transport has crashed under the announcement of what is left. -/
  | crashedRestoring {before : List Event} {error : ClientError} {clientId : String}
      {topics : List String} (settled : Settled s c request registered before (.failed error)) :
      Account (.ended .crashed)
        (before ++ [.announced (.call c) clientId topics, .answered (.call c) .crash,
          .returned c .crashed])

end Account

/-- A call goes on, and its account stays in order. -/
def Continues (e e' : Engine) (c : Nat) (request : Request)
    (registered : Option (String × ListenerId)) (log : List Event) : Prop :=
  ∃ phase more, Proceeds e e' c phase more ∧
    (∀ event ∈ more, event.task? = some (.call c)) ∧
    Account e.settings c request registered phase (log ++ more)

section Account

variable {s : Settings} {c : Nat} {request : Request} {registered : Option (String × ListenerId)}
  {log : List Event} {outcome : Outcome}

/-! ### What an account tells -/

@[simp]
theorem mem_preamble {key : String} {id : ListenerId} :
    .registered c key id ∈ preamble c registered ↔ registered = some (key, id) := by
  cases registered with
  | none => simp [preamble]
  | some p => simp [preamble, Prod.ext_iff, eq_comm]

theorem success_eq_subscribed {key : String} {id : ListenerId} :
    success registered = .subscribed key id ↔ registered = some (key, id) := by
  unfold success
  split
  · simp
  · simp

/-- Only what is registered is a success with a registration. -/
theorem Settled.registered_of_subscribed {key : String} {id : ListenerId}
    (h : Settled s c request registered log (.subscribed key id)) :
    registered = some (key, id) := by
  generalize houtcome : Outcome.subscribed key id = outcome at h
  cases h with
  | undue => exact success_eq_subscribed.1 houtcome.symm
  | announced topical => exact success_eq_subscribed.1 houtcome.symm
  | late | refused => cases houtcome

theorem Aftermath.result?_eq {phase : Call.Phase} {after : List Event}
    (h : Aftermath c registered outcome phase after) : phase.result? = some outcome := by
  cases h <;> rfl

/-- Where a call that is no subscription without a topic has an outcome, and has not crashed, the
log tells how it was settled. -/
theorem Account.exists_settled {phase : Call.Phase} (h : Account s c request registered phase log)
    (hset : request.isUnset = false) (hresult : phase.result? = some outcome)
    (hcrash : outcome ≠ .crashed) :
    ∃ before after, log = before ++ after ∧ Settled s c request registered before outcome ∧
      Aftermath c registered outcome phase after := by
  cases h with
  | unset unset => cases hset.symm.trans unset
  | awaiting | announcing => cases hresult
  | settled settled aftermath =>
    cases hresult.symm.trans aftermath.result?_eq
    exact ⟨_, _, rfl, settled, aftermath⟩
  | crashed | crashedRestoring =>
    cases hresult
    exact absurd rfl hcrash

/-! ### Going on -/

section Continue

variable {e e' : Engine} {call : Call}

/-- A call that ends, or will end after the worker that it gives up, ends with its outcome. -/
theorem continues_of_closes (hsettled : Settled e.settings c request registered log outcome)
    (hbare : ∀ key id, outcome ≠ .subscribed key id) (h : Closes e e' c outcome) :
    Continues e e' c request registered log := by
  cases h with
  | ends proceeds => exact ⟨_, _, proceeds, by simp [Event.task?], .settled hsettled (.ended _)⟩
  | joins occupied vacated proceeds =>
    exact ⟨_, _, proceeds, by simp [Event.task?], .settled hsettled (.joining hbare)⟩

theorem continues_endCall (hsettled : Settled e.settings c request registered log outcome) :
    Continues e (e.endCall c outcome) c request registered log :=
  ⟨_, _, proceeds_endCall e c outcome, by simp [Event.task?], .settled hsettled (.ended _)⟩

/-- A call undoes its registration after it has been settled that it fails. -/
theorem continues_rollBack {key : String} {id : ListenerId} {error : ClientError}
    (hregistered : registered.isSome = true)
    (hsettled : Settled e.settings c request registered log (.failed error)) :
    Continues e (e.rollBack c key id error) c request registered log := by
  rcases closes_or_proceeds_rollBack e c key id error with
    hcloses | ⟨clientId, topics, hproceeds⟩
  · exact continues_of_closes hsettled (by simp) hcloses
  · refine ⟨_, _, hproceeds, by simp [Event.task?], .settled hsettled ?_⟩
    exact .restoring hregistered

/-- A call whose outcome nothing but a crash can change ends with it. -/
theorem continues_restored {error : ClientError} {watched : Option Nat} {answer : Option Answer}
    (h : Account e.settings c request registered (.restoring error watched answer) log) :
    Continues e (e.endCall c (.failed error)) c request registered log := by
  cases h with
  | settled settled aftermath =>
    cases aftermath with
    | restoring undone =>
      refine ⟨_, _, proceeds_endCall e c _, by simp [Event.task?], ?_⟩
      rw [List.append_assoc]
      exact .settled settled (.restored undone)

theorem continues_joined {w : Nat}
    (h : Account e.settings c request registered (.joining w outcome) log) :
    Continues e (e.concludeDisconnect c outcome) c request registered log := by
  cases h with
  | settled settled aftermath =>
    cases aftermath with
    | joining bare =>
      refine ⟨_, _, proceeds_concludeDisconnect e c _, by simp [Event.task?], ?_⟩
      rw [List.append_assoc]
      exact .settled settled (.joined bare)

/-- A call that waits for an answer of a crashing transport crashes. -/
theorem continues_crash
    (h : (∃ watched,
        Account e.settings c request registered (.announcing watched (some .crash)) log) ∨
      ∃ error watched,
        Account e.settings c request registered (.restoring error watched (some .crash)) log) :
    Continues e (e.endCall c .crashed) c request registered log := by
  refine ⟨_, _, proceeds_endCall e c _, by simp [Event.task?], ?_⟩
  rcases h with ⟨watched, haccount⟩ | ⟨error, watched, haccount⟩
  · cases haccount with
    | announcing topical =>
      rw [List.append_assoc]
      exact .crashed topical
    | settled settled aftermath => cases aftermath
  · cases haccount with
    | settled settled aftermath =>
      cases aftermath with
      | restoring undone =>
        rw [List.append_assoc]
        exact .crashedRestoring settled

end Continue

end Account

/-! ### Calls that go on -/

section CallMove

variable {e e' : Engine} {c : Nat} {call : Call} {log : List Event}

theorem patience?_eq_of_timeout (e : Engine) {request : Request} {patience : Duration}
    (h : request.patience? e.settings = some patience) :
    e.timeoutError request = .connectTimeout e.settings.url patience.toMillis := by
  cases request with
  | subscribe topic options listener =>
    simp only [Request.patience?] at h
    split at h
    · cases h
    · cases h
      rfl
  | ensureConnected patience =>
    cases h
    rfl
  | disconnect | remove => cases h

/-- A call that goes on keeps its account in order. -/
theorem continues_of_callMove (h : CallMove e c call e')
    (hregisters : call.request.Registers call.registered)
    (haccount : Account e.settings c call.request call.registered call.phase log) :
    Continues e e' c call.request call.registered log := by
  -- what the log holds so far is told by the phase in which the call waits
  have hawaiting {deadline : Nat} (phase : call.phase = .awaiting deadline) :
      log = preamble c call.registered ∧
        ∃ patience, call.request.patience? e.settings = some patience := by
    rw [phase] at haccount
    cases haccount with
    | awaiting waits => exact ⟨rfl, _, waits⟩
    | settled settled aftermath => cases aftermath
  have hannouncing {watched : Option Nat} {answer : Option Answer}
      (phase : call.phase = .announcing watched answer) :
      call.request.isAboutTopics = true ∧ ∃ clientId topics,
        log = preamble c call.registered ++
          .announced (.call c) clientId topics :: answer.toList.map (.answered (.call c)) := by
    rw [phase] at haccount
    cases haccount with
    | announcing topical => exact ⟨topical, _, _, rfl⟩
    | settled settled aftermath => cases aftermath
  cases h with
  | @announce deadline key id phase ready subscriber =>
    obtain ⟨rfl, patience, hwaits⟩ := hawaiting phase
    have htopical := hregisters.isAboutTopics (by rw [subscriber]; rfl)
    rcases proceeds_announceFor e c fun e => e.endCall c (.subscribed key id) with
      ⟨clientId, topics, -, hproceeds⟩ | ⟨-, heq⟩
    · exact ⟨_, _, hproceeds, by simp [Event.task?], .announcing htopical⟩
    · rw [heq]
      have hsuccess : success call.registered = .subscribed key id :=
        success_eq_subscribed.2 subscriber
      exact continues_endCall (hsuccess ▸ .undue (isUnset_of_patience? hwaits))
  | greeted phase ready waiter =>
    obtain ⟨rfl, patience, hwaits⟩ := hawaiting phase
    have hsuccess : success call.registered = .done := by rw [waiter]; rfl
    exact continues_endCall (hsuccess ▸ .undue (isUnset_of_patience? hwaits))
  | timeOut phase waits due waiter =>
    obtain ⟨rfl, patience, hwaits⟩ := hawaiting phase
    rw [patience?_eq_of_timeout e hwaits]
    exact continues_endCall (.late hwaits)
  | @undo key id error subscriber cause =>
    refine continues_rollBack (by rw [subscriber]; rfl) ?_
    rcases cause with ⟨deadline, -, phase, -, rfl⟩ | ⟨watched, phase, counted⟩
    · obtain ⟨rfl, patience, hwaits⟩ := hawaiting phase
      rw [patience?_eq_of_timeout e hwaits]
      exact .late hwaits
    · obtain ⟨htopical, clientId, topics, rfl⟩ := hannouncing phase
      exact .refused htopical counted
  | @subscribed watched answer key id phase subscriber cause =>
    obtain ⟨htopical, clientId, topics, rfl⟩ := hannouncing phase
    have hsuccess : success call.registered = .subscribed key id :=
      success_eq_subscribed.2 subscriber
    exact continues_endCall (hsuccess ▸ .announced htopical)
  | @conclude watched answer outcome phase remover cause =>
    obtain ⟨htopical, clientId, topics, rfl⟩ := hannouncing phase
    rcases cause with ⟨rfl, -⟩ | ⟨error, rfl, rfl, counted⟩
    · have hsuccess : success call.registered = .done := by rw [remover]; rfl
      have hsettled : Settled e.settings c call.request call.registered
          (preamble c call.registered ++ .announced (.call c) clientId topics ::
            answer.toList.map (.answered (.call c))) .done :=
        hsuccess ▸ .announced htopical
      exact continues_of_closes hsettled (by simp) (closes_concludeRemoval e c .done)
    · exact continues_of_closes (.refused htopical counted) (by simp)
        (closes_concludeRemoval e c (.failed error))
  | restored phase =>
    rw [phase] at haccount
    exact continues_restored haccount
  | crash phase =>
    refine continues_crash ?_
    rcases phase with ⟨watched, phase⟩ | ⟨error, watched, phase⟩
    · exact .inl ⟨watched, phase ▸ haccount⟩
    · exact .inr ⟨error, watched, phase ▸ haccount⟩
  | join phase ended =>
    rw [phase] at haccount
    exact continues_joined haccount

/-- An answer is noted where a call waits for one. -/
theorem account_withAnswer {s : Settings} {request : Request}
    {registered : Option (String × ListenerId)} {phase : Call.Phase} (answer : Answer)
    (hawaits : (∃ watched, phase = .announcing watched none) ∨
      ∃ error watched, phase = .restoring error watched none)
    (haccount : Account s c request registered phase log) :
    Account s c request registered (phase.withAnswer answer)
      (log ++ [.answered (.call c) answer]) := by
  rcases hawaits with ⟨watched, rfl⟩ | ⟨error, watched, rfl⟩
  · cases haccount with
    | announcing topical =>
      rw [List.append_assoc]
      exact .announcing topical
    | settled settled aftermath => cases aftermath
  · cases haccount with
    | settled settled aftermath =>
      cases aftermath with
      | restoring undone =>
        rw [List.append_assoc]
        exact .settled settled (.restoring undone)

end CallMove

/-! ### Calls that begin -/

section Begin

/-- A call that has begun is there, with its request and with an account in order. -/
def Opens (e e' : Engine) (request : Request) : Prop :=
  ∃ call, e'.calls[e.calls.length]? = some call ∧ call.request = request ∧
    request.Registers call.registered ∧
    Account e.settings e.calls.length request call.registered call.phase
      (e'.eventsOf (.call e.calls.length))

variable {e : Engine}

/-- A call that does without a registration goes on at once from the point at which it is added. -/
theorem opens_of_continues (e₀ : Engine) {e' : Engine} {request : Request} {borrows : Bool}
    (hcalls : e₀.calls = (e.addCall request borrows none (.ended .done)).calls)
    (hevents : e₀.eventsOf (.call e.calls.length) = [])
    (hsettings : e₀.settings = e.settings)
    (hregisters : request.Registers none)
    (h : Continues e₀ e' e.calls.length request none []) : Opens e e' request := by
  obtain ⟨phase, more, hproceeds, htask, haccount⟩ := h
  have hcall : e₀.calls[e.calls.length]? = some ⟨request, borrows, none, false, .ended .done⟩ := by
    rw [hcalls]
    exact getElem?_addCall_length e request borrows none (.ended .done)
  refine ⟨_, hproceeds.goes.self hcall, rfl, hregisters, ?_⟩
  rw [hproceeds.toNotes.eventsOf htask, hevents, ← hsettings]
  exact haccount

theorem opens_beginCall (hfresh : e.eventsOf (.call e.calls.length) = []) (request : Request)
    (borrows : Bool) : Opens e (e.beginCall request borrows) request := by
  cases request with
  | subscribe topic options listener =>
    simp only [beginCall]
    split
    · -- without a topic the call ends as it begins
      rename_i htopic
      subst htopic
      refine ⟨_, getElem?_addCall_length e _ _ _ _, rfl, rfl, ?_⟩
      let unset := Outcome.failed (.invalidArgument "topic must be set")
      let e₁ := (e.addCall (.subscribe "" options listener) borrows none (.ended unset)).note
        (.returned e.calls.length unset)
      have hnotes : Notes e e₁ [.returned e.calls.length unset] := ⟨rfl, rfl, rfl⟩
      have hevents : e₁.eventsOf (.call e.calls.length) =
          e.eventsOf (.call e.calls.length) ++ [.returned e.calls.length unset] :=
        hnotes.eventsOf (by simp [Event.task?])
      rw [hfresh] at hevents
      refine hevents ▸ ?_
      exact .unset rfl
    · rename_i htopic
      have hregistered := notes_withRegistration e topic options listener
      obtain ⟨more, hmore, hnone⟩ :=
        notes_ensureWorker (e.withRegistration topic options listener)
      -- the start of a worker is nothing that concerns the call
      have hevents :
          (e.withRegistration topic options listener).ensureWorker.eventsOf
            (.call e.calls.length) =
          preamble e.calls.length
            (some (options.topicKey topic, ⟨e.registry.issued + 1⟩)) := by
        rw [hmore.eventsOf_eq_of_none hnone, hregistered.eventsOf (by simp [Event.task?]), hfresh]
        rfl
      have hadded := getElem?_beginCall_subscribe e htopic options listener borrows
      simp only [beginCall, if_neg htopic] at hadded
      refine ⟨_, hadded, rfl, ⟨htopic, rfl⟩, ?_⟩
      refine hevents ▸ ?_
      have hwaits : Request.patience? e.settings (.subscribe topic options listener) =
          some (.ofMillis e.settings.connectTimeout) := if_neg htopic
      exact .awaiting hwaits
  | ensureConnected patience =>
    obtain ⟨more, hmore, hnone⟩ := notes_ensureWorker e
    have hevents : e.ensureWorker.eventsOf (.call e.calls.length) = [] :=
      (hmore.eventsOf_eq_of_none hnone).trans hfresh
    refine ⟨_, getElem?_beginCall_ensureConnected e patience borrows, rfl, rfl, ?_⟩
    refine hevents ▸ ?_
    have hwaits : Request.patience? e.settings (.ensureConnected patience) = some patience := rfl
    exact .awaiting hwaits
  | disconnect =>
    refine opens_of_continues (e.addCall .disconnect borrows none (.ended .done)) rfl hfresh rfl rfl
      ?_
    exact continues_of_closes (.undue rfl) (by simp [success]) (closes_beginDisconnect _ _ .done)
  | remove what =>
    refine opens_of_continues (e.withRemoval what borrows) rfl hfresh rfl rfl ?_
    rcases proceeds_beginCall_remove e what borrows with ⟨clientId, topics, h⟩ | heq
    · exact ⟨_, _, h, by simp [Event.task?], .announcing rfl⟩
    · rw [heq]
      exact continues_of_closes (.undue rfl) (by simp [success]) (closes_concludeRemoval _ _ .done)

end Begin

/-! ### The calls after a step -/

section Steps

variable {e e' : Engine} {action : Action}

theorem length_calls_of_goes {c : Nat} {phase : Call.Phase} (h : Goes e e' c phase) :
    e'.calls.length = e.calls.length := by
  rw [h]
  exact List.length_modify ..

/-- The beginning of a call adds one call. -/
theorem length_calls_beginCall (e : Engine) (request : Request) (borrows : Bool) :
    (e.beginCall request borrows).calls.length = e.calls.length + 1 := by
  cases request with
  | subscribe topic options listener =>
    simp only [beginCall]
    split
    · simp [addCall, note]
    · simp [addCall, note]
  | ensureConnected patience => simp [beginCall, addCall]
  | disconnect =>
    let e₀ := e.addCall .disconnect borrows none (.ended .done)
    obtain ⟨phase, hgoes, -⟩ := goes_beginDisconnect e₀ e.calls.length .done
    refine (length_calls_of_goes hgoes).trans ?_
    simp [e₀, addCall]
  | remove what =>
    obtain ⟨phase, hgoes, -⟩ := goes_announceFor (e.withRemoval what borrows) e.calls.length
      (fun e₁ => e₁.concludeRemoval e.calls.length .done)
      (goes_concludeRemoval (e.withRemoval what borrows) e.calls.length .done)
    refine (length_calls_of_goes hgoes).trans ?_
    simp [withRemoval, addCall]

/-- A step begins a call, or leaves the number of the calls as it is. -/
theorem begins_or_length_eq (h : e.step action = some e') :
    (∃ request, Begins e action request e') ∨ e'.calls.length = e.calls.length := by
  cases stepMove_of_step h with
  | start alive request => exact .inl ⟨request, .start request⟩
  | closeHandle handle => exact .inl ⟨_, .closeHandle handle⟩
  | worker present running move => exact .inr (congrArg _ (frame_of_workerMove move).calls)
  | call present move =>
    obtain ⟨phase, hgoes, -⟩ := goes_of_callMove e _ move
    exact .inr (length_calls_of_goes hgoes)
  | @answer task awaited answer =>
    cases task with
    | worker w => exact .inr rfl
    | call c => exact .inr (List.length_modify ..)
  | dropWorker alive free taken =>
    have hcalls := calls_of_takeWorker _ taken
    exact .inr (congrArg List.length hcalls)
  | arrive | finish | tick | dropClient | setCredential | observeConnect | observeDisconnect =>
    exact .inr rfl

theorem Begins.length {request : Request} (h : Begins e action request e') :
    e'.calls.length = e.calls.length + 1 := by
  cases h with
  | start request => exact length_calls_beginCall e request true
  | @closeHandle c key id handle =>
    rw [length_calls_beginCall, useHandle]
    exact congrArg (· + 1) (List.length_modify ..)

/-- No call is ever forgotten. -/
theorem length_calls_le (h : e.step action = some e') : e.calls.length ≤ e'.calls.length := by
  rcases begins_or_length_eq h with ⟨request, hbegins⟩ | hlength
  · rw [hbegins.length]
    exact Nat.le_succ _
  · exact Nat.le_of_eq hlength.symm

/-- After an action on a call the call is there. -/
theorem lt_length_of_task (h : e.step action = some e') {c : Nat}
    (htask : action.task? e = some (.call c)) : c < e'.calls.length := by
  cases stepMove_of_step h with
  | start alive request =>
    cases htask
    rw [(Begins.start request).length]
    exact Nat.lt_succ_self _
  | closeHandle handle =>
    cases htask
    rw [(Begins.closeHandle handle).length]
    exact Nat.lt_succ_self _
  | call present move =>
    cases htask
    exact Nat.lt_of_lt_of_le (List.getElem?_eq_some_iff.1 present).1 (length_calls_le h)
  | answer awaited answer =>
    cases htask
    -- only a call that is there waits for an answer
    refine Nat.lt_of_lt_of_le (Nat.lt_of_not_le fun hle => ?_) (length_calls_le h)
    simp [awaitsAnswer, List.getElem?_eq_none_iff.2 hle] at awaited
  | worker | arrive | finish | tick | dropClient | dropWorker | setCredential | observeConnect
  | observeDisconnect => cases htask

/-- A call that is there after a step, but not before it, is the one that the step begins. -/
theorem exists_begins_of_step (h : e.step action = some e') {c : Nat} {call : Call}
    (hnew : e.calls[c]? = none) (hcall : e'.calls[c]? = some call) :
    c = e.calls.length ∧ ∃ request, Begins e action request e' := by
  have hlt := (List.getElem?_eq_some_iff.1 hcall).1
  have hle := List.getElem?_eq_none_iff.1 hnew
  rcases begins_or_length_eq h with ⟨request, hbegins⟩ | hlength
  · rw [hbegins.length] at hlt
    exact ⟨by omega, request, hbegins⟩
  · omega

/-- An action that begins a call begins it with its account in order. -/
theorem Begins.opens {request : Request} (h : Begins e action request e')
    (hfresh : e.eventsOf (.call e.calls.length) = []) : Opens e e' request := by
  cases h with
  | start request => exact opens_beginCall hfresh request true
  | @closeHandle c key id handle =>
    have hlength : (e.useHandle c).calls.length = e.calls.length := List.length_modify ..
    have hopens := opens_beginCall (e := e.useHandle c) (by rw [hlength]; exact hfresh)
      (.remove (.listener key id)) false
    rw [Opens, hlength] at hopens
    exact hopens

end Steps

/-! ### The accounts of all calls -/

/-- The accounts of all calls are in order, and no others are there. -/
structure Accounts (e : Engine) : Prop where
  /-- What a call has registered goes with its request. -/
  registers : ∀ (c : Nat) (call : Call), e.calls[c]? = some call →
    call.request.Registers call.registered
  /-- What the log tells of a call goes with its phase. -/
  account : ∀ (c : Nat) (call : Call), e.calls[c]? = some call →
    Account e.settings c call.request call.registered call.phase (e.eventsOf (.call c))
  /-- The log tells nothing of calls that have not begun. -/
  fresh : ∀ c, e.calls[c]? = none → e.eventsOf (.call c) = []

section Steps

variable {e e' : Engine} {action : Action}

/-- An answer is handed to a call only where it waits for one. -/
theorem awaits_of_awaitsAnswer {c : Nat} {call : Call} (hcall : e.calls[c]? = some call)
    (h : e.awaitsAnswer (.call c) = true) :
    (∃ watched, call.phase = .announcing watched none) ∨
      ∃ error watched, call.phase = .restoring error watched none := by
  simp only [awaitsAnswer, hcall] at h
  split at h
  · rename_i watched hphase
    exact .inl ⟨watched, hphase⟩
  · rename_i error watched hphase
    exact .inr ⟨error, watched, hphase⟩
  · cases h

/-- A step keeps the account of a call in order that has begun before. -/
theorem Accounts.account_step (h : Accounts e) (hstep : e.step action = some e') {c : Nat}
    {call : Call} (hcall : e.calls[c]? = some call) :
    ∃ call', e'.calls[c]? = some call' ∧ call'.request = call.request ∧
      call'.registered = call.registered ∧
      Account e.settings c call.request call.registered call'.phase (e'.eventsOf (.call c)) := by
  obtain ⟨call', hcall', hrequest, hregistered, hphase⟩ := callStep_of_step hstep hcall
  have haccount := h.account c call hcall
  by_cases htask : action.task? e = some (.call c)
  · -- the action is one on this call, which is not a new one
    have hlt := (List.getElem?_eq_some_iff.1 hcall).1
    cases action with
    | start request | closeHandle c₁ =>
      cases htask
      exact absurd hlt (Nat.lt_irrefl _)
    | resume task preferAnswer =>
      cases htask
      obtain ⟨call₁, hcall₁, hmove⟩ := callMove_resumeCall hstep
      cases hcall.symm.trans hcall₁
      obtain ⟨phase, more, hproceeds, hmine, hnext⟩ :=
        continues_of_callMove hmove (h.registers c call hcall) haccount
      refine ⟨_, hproceeds.goes.self hcall, rfl, rfl, ?_⟩
      rw [hproceeds.toNotes.eventsOf hmine]
      exact hnext
    | answer task answer =>
      cases htask
      cases stepMove_of_step hstep with
      | answer awaited answer =>
        refine ⟨{ call with phase := call.phase.withAnswer answer }, ?_, rfl, rfl, ?_⟩
        · simp [giveAnswer, note, hcall]
        · rw [(notes_giveAnswer e (.call c) answer).eventsOf (by simp [Event.task?])]
          exact account_withAnswer answer (awaits_of_awaitsAnswer hcall awaited) haccount
    | arrive | finish | tick | dropClient | setCredential | observeConnect | observeDisconnect =>
      cases htask
  · refine ⟨call', hcall', hrequest, hregistered, ?_⟩
    rw [eventsOf_step hstep htask]
    cases hphase with
    | keep phase =>
      rw [phase]
      exact haccount
    | answer answer phase => exact absurd rfl htask
    | move preferAnswer move => exact absurd rfl htask

theorem accounts_step (h : Accounts e) (hstep : e.step action = some e') : Accounts e' := by
  have hsettings : e'.settings = e.settings := by
    obtain ⟨more, -, hsettings, -⟩ := notes_of_step hstep
    exact hsettings
  -- a call that is there has been there before, or the step has begun it
  have hall (c : Nat) (call' : Call) (hcall' : e'.calls[c]? = some call') :
      call'.request.Registers call'.registered ∧
        Account e'.settings c call'.request call'.registered call'.phase
          (e'.eventsOf (.call c)) := by
    rw [hsettings]
    cases hcall : e.calls[c]? with
    | some call =>
      obtain ⟨call₁, hcall₁, hrequest, hregistered, haccount⟩ := h.account_step hstep hcall
      cases hcall'.symm.trans hcall₁
      rw [hrequest, hregistered]
      exact ⟨h.registers c call hcall, haccount⟩
    | none =>
      obtain ⟨rfl, request, hbegins⟩ := exists_begins_of_step hstep hcall hcall'
      obtain ⟨call₁, hcall₁, rfl, hregisters, haccount⟩ := hbegins.opens (h.fresh _ hcall)
      cases hcall'.symm.trans hcall₁
      exact ⟨hregisters, haccount⟩
  refine ⟨fun c call hcall => (hall c call hcall).1, fun c call hcall => (hall c call hcall).2, ?_⟩
  intro c hnone
  have hle := List.getElem?_eq_none_iff.1 hnone
  rw [eventsOf_step hstep fun htask => Nat.not_lt.2 hle (lt_length_of_task hstep htask)]
  exact h.fresh c (List.getElem?_eq_none_iff.2 (Nat.le_trans (length_calls_le hstep) hle))

end Steps

/-- The accounts of all calls are in order in every reachable state. -/
theorem accounts_of_reachable {settings : Settings} {credential : Option String} {e : Engine}
    (he : Reachable settings credential e) : Accounts e := by
  induction he with
  | initial =>
    constructor
    case registers =>
      intro c call hcall
      cases hcall
    case account =>
      intro c call hcall
      cases hcall
    case fresh =>
      intro c _
      rfl
  | step action before happens ih => exact accounts_step ih happens

/-! ### The beginnings of calls -/

/-- A run after which a call is there that has not been there before passes the action that begins
it, with the request that it has. -/
theorem exists_begins_of_run {settings : Settings} {credential : Option String} {e e' : Engine}
    (he : Reachable settings credential e) {actions : List Action}
    (hrun : e.run actions = some e') {c : Nat} {call : Call} (hnew : e.calls[c]? = none)
    (hcall : e'.calls[c]? = some call) :
    ∃ e₁ action e₂, e.Passes actions e' e₁ action e₂ ∧ e₁.calls.length = c ∧
      Begins e₁ action call.request e₂ := by
  obtain ⟨e₁, action, e₂, hpasses, hbefore, call₂, hcall₂⟩ :=
    exists_passes (p := fun e => ∃ call, e.calls[c]? = some call) hrun
      (by rintro ⟨call, hcall⟩; cases hnew.symm.trans hcall) ⟨call, hcall⟩
  have hnone : e₁.calls[c]? = none := by
    cases h : e₁.calls[c]? with
    | none => rfl
    | some call₁ => exact absurd ⟨call₁, h⟩ hbefore
  obtain ⟨rfl, request, hbegins⟩ := exists_begins_of_step hpasses.step hnone hcall₂
  obtain ⟨before, after, -, -, hrest⟩ := hpasses.split
  obtain ⟨call₃, hcall₃, hrequest, -⟩ :=
    hbegins.opens ((accounts_of_reachable (hpasses.reachable he)).fresh _ hnone)
  obtain ⟨call₄, hcall₄, hsame, -⟩ := exists_call_of_run hrest hcall₃
  cases hcall.symm.trans hcall₄
  rw [hsame, hrequest]
  exact ⟨e₁, action, e₂, hpasses, rfl, hbegins⟩

end TopicStream.Engine
