import TopicStream.Proofs.Engine.Accounts
import TopicStream.Proofs.Engine.Undoing

/-!
# Where the errors of calls come from

Errors reach the engine from many sides: streams cannot be opened or fail, and announcements of
workers, of removals, of subscriptions and of undone subscriptions are refused. A caller gets only
those that are its own (`Origin`): a call that has failed has waited too long for the greeting, or
its own announcement has been refused, or it was a subscription without a topic. That an
announcement has been given up is no error to anybody.

## Main results

* `origin_of_settled`: the account of a call tells where its error comes from;
* `removal_stands`: what a removal has taken out stays out, whatever comes of its announcement;
* `error_provenance`: both together, for every call of every run.
-/

namespace TopicStream.Engine

open Subscription

/-- Where the error of a call comes from, told by its request and by the part of the log that
concerns it. -/
inductive Origin (s : Settings) (c : Nat) (log : List Event) : Request → ClientError → Prop
  /-- It is a subscription without a topic. -/
  | unset {options : Options} {listener : Listener} :
      Origin s c log (.subscribe "" options listener) (.invalidArgument "topic must be set")
  /-- The greeting has not come within the time that subscriptions have for it. -/
  | late {topic : String} {options : Options} {listener : Listener} (topic_ne : topic ≠ "") :
      Origin s c log (.subscribe topic options listener)
        (.connectTimeout s.url (min s.connectTimeout Duration.maxMillis))
  /-- The greeting has not come within the time that the caller has given, which the error tells in
  whole milliseconds. -/
  | lateWait {patience : Duration} :
      Origin s c log (.ensureConnected patience) (.connectTimeout s.url patience.toMillis)
  /-- The announcement with which it has announced its topic has been answered with the error. -/
  | refused {topic : String} {options : Options} {listener : Listener} {error : ClientError}
      {id : ListenerId} {clientId : String} {topics : List String} {rest : List Event}
      (topic_ne : topic ≠ "") (counted : error.isAbort = false)
      (own : log = .registered c (options.topicKey topic) id ::
        .announced (.call c) clientId topics :: .answered (.call c) (.failure error) :: rest) :
      Origin s c log (.subscribe topic options listener) error
  /-- The one announcement with which it has announced what is left has been answered with the
  error. -/
  | refusedRemoval {what : Removal} {error : ClientError} {clientId : String} {topics : List String}
      {rest : List Event} (counted : error.isAbort = false)
      (own : log =
        .announced (.call c) clientId topics :: .answered (.call c) (.failure error) :: rest)
      (single : ∀ task clientId topics, .announced task clientId topics ∉ rest) :
      Origin s c log (.remove what) error

section Origin

variable {s : Settings} {c : Nat} {request : Request} {registered : Option (String × ListenerId)}
  {error : ClientError}

theorem isAbort_of_counts (h : counts error = true) : error.isAbort = false := by
  simpa [counts] using h

/-- No call returns that something has been given up. -/
theorem Origin.isAbort {log : List Event} (h : Origin s c log request error) :
    error.isAbort = false := by
  cases h with
  | refused topic_ne counted own => exact counted
  | refusedRemoval counted own single => exact counted
  | unset | late | lateWait => rfl

/-- A removal that has announced what is left announces nothing more. -/
theorem Aftermath.single {outcome : Outcome} {phase : Call.Phase} {after : List Event}
    (h : Aftermath c none outcome phase after) (task : Task) (clientId : String)
    (topics : List String) : .announced task clientId topics ∉ after := by
  cases h with
  | ended | joining | joined => simp
  | restoring undone | restored undone => cases undone

/-- The account of a call that fails tells where its error comes from. -/
theorem origin_of_settled (hregisters : request.Registers registered) {before after : List Event}
    {phase : Call.Phase} (hsettled : Settled s c request registered before (.failed error))
    (haftermath : Aftermath c registered (.failed error) phase after) :
    Origin s c (before ++ after) request error := by
  generalize houtcome : Outcome.failed error = outcome at hsettled
  cases hsettled with
  | @late patience waits =>
    cases houtcome
    cases request with
    | subscribe topic options listener =>
      simp only [Request.patience?] at waits
      split at waits
      · cases waits
      · rename_i htopic
        cases waits
        rw [Duration.toMillis_ofMillis]
        exact .late htopic
    | ensureConnected patience =>
      cases waits
      exact .lateWait
    | disconnect | remove => cases waits
  | @refused clientId topics error' topical counted =>
    cases houtcome
    have hcounted := isAbort_of_counts counted
    cases request with
    | subscribe topic options listener =>
      have htopic : topic ≠ "" := of_decide_eq_true topical
      cases registered with
      | none => exact absurd hregisters htopic
      | some p =>
        obtain ⟨key, id⟩ := p
        obtain ⟨-, rfl⟩ := hregisters
        exact .refused htopic hcounted rfl
    | remove what =>
      obtain rfl : registered = none := hregisters
      exact .refusedRemoval hcounted rfl haftermath.single
    | ensureConnected | disconnect => cases topical
  -- a call that has done what it was asked does not fail
  | undue | announced =>
    unfold success at houtcome
    split at houtcome <;> cases houtcome

theorem origin_of_isUnset {log : List Event} (h : request.isUnset = true) :
    Origin s c log request (.invalidArgument "topic must be set") := by
  cases request with
  | subscribe topic options listener =>
    obtain rfl : topic = "" := of_decide_eq_true h
    exact .unset
  | ensureConnected | disconnect | remove => cases h

/-- A subscription without a topic has ended with the error that says so. -/
theorem Account.eq_of_isUnset {log : List Event} {phase : Call.Phase}
    (h : Account s c request registered phase log) (hunset : request.isUnset = true) :
    phase = .ended (.failed (.invalidArgument "topic must be set")) := by
  -- it neither waits for the greeting nor has it anything to announce
  have hpatient {patience : Duration} (hwaits : request.patience? s = some patience) : False := by
    cases hunset.symm.trans (isUnset_of_patience? hwaits)
  have hsilent (htopical : request.isAboutTopics = true) : False := by
    cases hunset.symm.trans (isUnset_of_isAboutTopics htopical)
  have hsettled {before : List Event} {outcome : Outcome}
      (hsettled : Settled s c request registered before outcome) : False := by
    cases hsettled with
    | late waits => exact hpatient waits
    | refused topical | announced topical => exact hsilent topical
    | undue sound => cases hunset.symm.trans sound
  cases h with
  | unset => rfl
  | awaiting waits => exact (hpatient waits).elim
  | announcing topical | crashed topical => exact (hsilent topical).elim
  | settled settled | crashedRestoring settled => exact (hsettled settled).elim

end Origin

/-! ### Removals -/

section Removals

variable {e e' : Engine} {what : Removal}

theorem Begins.registry_remove {action : Action} (h : Begins e action (.remove what) e') :
    e'.registry = what.apply e.registry := by
  cases h with
  | start request => exact registry_beginCall_remove e what true
  | @closeHandle c key id handle => exact registry_beginCall_remove (e.useHandle c) _ false

/-- Of a run that begins a removal, what the removal takes out stays out. -/
theorem removal_stands {e₁ e₂ : Engine} {actions : List Action} {action : Action}
    (hwf : e₁.registry.WellFormed) (hpasses : e.Passes actions e' e₁ action e₂)
    (hbegins : Begins e₁ action (.remove what) e₂) {key : String} {p : ListenerId × Listener}
    (hp : p ∈ e₁.registry.entries key) (hout : p ∉ e₂.registry.entries key) :
    e'.registry.Withdrawn p.1 := by
  obtain ⟨before, after, -, -, hafter⟩ := hpasses.split
  refine (registryRun_of_run hafter).withdrawn ?_
  rw [hbegins.registry_remove] at hout ⊢
  exact hwf.withdrawn_of_sublist (what.issued_apply _) (what.entries_apply_sublist _) hp hout

end Removals

/-- Where the errors of calls come from, for every call of every run. A subscription without a topic
fails with the error that says so. A call that fails never fails because something has been given
up. A subscription to a topic fails because the greeting has not come in time, or because its own
announcement, the first that it has made, has been answered with the error; a wait fails because the
greeting has not come within the time given; a disconnection does not fail; and a removal fails
because its own announcement, the only one that it makes, has been answered with the error. What the
removal has taken out as it began stays out all the same. -/
theorem error_provenance {settings : Settings} {credential : Option String}
    {actions : List Action} {e : Engine}
    (hrun : (Engine.initial settings credential).run actions = some e) {c : Nat} {call : Call}
    (hcall : e.calls[c]? = some call) :
    (∀ options listener, call.request = .subscribe "" options listener →
      call.phase = .ended (.failed (.invalidArgument "topic must be set"))) ∧
    ∀ error, call.phase = .ended (.failed error) →
      error.isAbort = false ∧
      Origin settings c (e.eventsOf (.call c)) call.request error ∧
      ∀ what, call.request = .remove what →
        ∃ e₁ action e₂, (Engine.initial settings credential).Passes actions e e₁ action e₂ ∧
          Begins e₁ action (.remove what) e₂ ∧ e₁.calls.length = c ∧
          e₂.registry = what.apply e₁.registry ∧
          ∀ key p, p ∈ e₁.registry.entries key → p ∉ e₂.registry.entries key →
            e.registry.Withdrawn p.1 := by
  have he := Reachable.initial.run hrun
  have haccounts := accounts_of_reachable he
  have hregisters := haccounts.registers c call hcall
  have haccount := haccounts.account c call hcall
  rw [settings_of_reachable he] at haccount
  constructor
  · intro options listener hrequest
    exact haccount.eq_of_isUnset (by rw [hrequest]; rfl)
  · intro error hfailed
    have horigin : Origin settings c (e.eventsOf (.call c)) call.request error := by
      rw [hfailed] at haccount
      cases hunset : call.request.isUnset with
      | true =>
        -- the call can only be the one that has failed as it began
        cases haccount.eq_of_isUnset hunset
        exact origin_of_isUnset hunset
      | false =>
        obtain ⟨before, after, hlog, hsettled, haftermath⟩ :=
          haccount.exists_settled hunset rfl nofun
        rw [hlog]
        exact origin_of_settled hregisters hsettled haftermath
    refine ⟨horigin.isAbort, horigin, fun what hrequest => ?_⟩
    have hnew : (Engine.initial settings credential).calls[c]? = none := rfl
    obtain ⟨e₁, action, e₂, hpasses, hlength, hbegins⟩ :=
      exists_begins_of_run .initial hrun hnew hcall
    rw [hrequest] at hbegins
    exact ⟨e₁, action, e₂, hpasses, hbegins, hlength, hbegins.registry_remove,
      fun key p => removal_stands (wellFormed_of_reachable (hpasses.reachable .initial)) hpasses
        hbegins⟩

/-- What a request wants removed, if it is a removal. -/
def Request.removal? : Request → Option Removal
  | .remove what => some what
  | _ => none

theorem Request.eq_remove {request : Request} {what : Removal}
    (h : request.removal? = some what) : request = .remove what := by
  cases request with
  | remove what' =>
    cases h
    rfl
  | subscribe | ensureConnected | disconnect => cases h

/-- The announcement of the worker is refused, then two subscriptions are announced, and one of the
topics is removed. The announcement of what is left is refused too. -/
def refusedRemoval : List Action :=
  [.start (.subscribe "news" .none (.sample "first" false))] ++
    openingActions 0 0 (greetingBytes "c1") ++
    [.resume (.worker 0) true, .answer (.worker 0) (.failure (.other "down")),
      .resume (.worker 0) true, .resume (.call 0) true, .answer (.call 0) .success,
      .resume (.call 0) true, .start (.subscribe "sport" .none (.sample "second" false)),
      .resume (.call 1) true, .answer (.call 1) .success, .resume (.call 1) true,
      .start (.remove (.topic "news")), .answer (.call 2) (.failure (.other "refused")),
      .resume (.call 2) true]

/-- The removal fails with the error of its own announcement, and it stands. -/
theorem error_provenance_refusedRemoval :
    ∃ e call error, (Engine.initial .sample none).run refusedRemoval = some e ∧
      e.calls[2]? = some call ∧ call.request = .remove (.topic "news") ∧
      call.phase = .ended (.failed error) ∧ error.message = "refused" ∧ error.isAbort = false ∧
      Origin .sample 2 (e.eventsOf (.call 2)) (.remove (.topic "news")) error ∧
      e.registry.activeTopics = ["sport"] ∧
      ∃ e₁ action e₂, Begins e₁ action (.remove (.topic "news")) e₂ ∧
        e₂.registry = (Removal.topic "news").apply e₁.registry := by
  obtain ⟨e, hrun, hend⟩ := exists_run (.initial .sample none) refusedRemoval
    (fun e => e.registry.activeTopics = ["sport"] && e.calls[2]?.any fun call =>
      call.request.removal? = some (.topic "news") &&
        call.phase.error?.any (·.message = "refused")) (by decide +kernel)
  obtain ⟨hleft, hcall⟩ := Bool.and_eq_true_iff.1 hend
  obtain ⟨call, hcall, hstate⟩ := (Option.any_eq_true _ _).1 hcall
  obtain ⟨hremoval, herror⟩ := Bool.and_eq_true_iff.1 hstate
  obtain ⟨error, herror, hmessage⟩ := (Option.any_eq_true _ _).1 herror
  have hrequest := Request.eq_remove (of_decide_eq_true hremoval)
  have hended := eq_ended_of_error? herror
  obtain ⟨hcounted, horigin, hstands⟩ := (error_provenance hrun hcall).2 error hended
  obtain ⟨e₁, action, e₂, -, hbegins, -, hregistry, -⟩ := hstands _ hrequest
  exact ⟨e, call, error, hrun, hcall, hrequest, hended, of_decide_eq_true hmessage, hcounted,
    hrequest ▸ horigin, of_decide_eq_true hleft, e₁, action, e₂, hbegins, hregistry⟩

end TopicStream.Engine
