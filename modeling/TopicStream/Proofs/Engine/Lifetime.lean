import TopicStream.Proofs.Engine.Registered
import TopicStream.Proofs.Engine.Run
import TopicStream.Proofs.Engine.Slot

/-!
# The lifetime of the connection

There is a worker in the slot as long as there are topics, unless somebody disconnects on purpose,
and only then, unless somebody connects on purpose. The registry is changed and the slot is filled
or emptied in one step: a subscription registers its listener and starts a worker, a removal and an
undone registration look whether a topic is left and give up the worker if there is none. `Tenure`
says what a step can do to the two.

## Main results

* `tenure_step`: what a step does to the topics and to the slot;
* `slot_of_topics` and `topics_of_slot`: what follows for a run;
* `slot_follows_registry`: both together, from the initial state.
-/

namespace TopicStream.Engine

open Subscription

/-! ### The slot under the elements of a step -/

section Elements

variable (e : Engine)

theorem isSome_slot_ensureWorker : e.ensureWorker.slot.isSome = true := by
  unfold ensureWorker
  split
  · rename_i hworker
    -- the worker that is running is the one in the slot
    unfold hasWorker at hworker
    split at hworker
    · rename_i w hslot
      rw [hslot]
      rfl
    · cases hworker
  · rfl

theorem slot_of_takeWorker {call : Option Nat} {w : Nat} {e' : Engine}
    (h : e.takeWorker call = some (w, e')) : e'.slot = none := by
  obtain ⟨-, hcore⟩ := core_of_takeWorker e h
  exact congrArg Core.slot hcore

theorem slot_concludeDisconnect (c : Nat) (outcome : Outcome) :
    (e.concludeDisconnect c outcome).slot = e.slot := by
  unfold concludeDisconnect
  split <;> rfl

/-- Tearing the connection down empties the slot at once. -/
theorem slot_beginDisconnect (c : Nat) (outcome : Outcome) :
    (e.beginDisconnect c outcome).slot = none := by
  unfold beginDisconnect
  split
  · rename_i w e' htake
    exact (slot_of_takeWorker e htake : e'.slot = none)
  · rename_i htake
    rw [slot_concludeDisconnect]
    exact slot_eq_none_of_takeWorker htake

theorem slot_concludeRemoval (c : Nat) (outcome : Outcome) :
    (e.concludeRemoval c outcome).slot = if e.registry.isEmpty then none else e.slot := by
  unfold concludeRemoval
  split
  · exact slot_beginDisconnect e c outcome
  · rfl

/-- Where something is announced there are topics. -/
theorem isEmpty_of_announce? {task : Task} {e' : Engine} (h : e.announce? task = some e') :
    e.registry.isEmpty = false := by
  rw [← Bool.not_eq_true]
  intro hempty
  rw [announce?, announcement?_of_isEmpty e hempty] at h
  cases h

theorem slot_of_announce? {task : Task} {e' : Engine} (h : e.announce? task = some e') :
    e'.slot = e.slot := by
  obtain ⟨due, -, rfl⟩ := Option.map_eq_some_iff.1 h
  rfl

/-- A removal empties the slot exactly if no topic is left. -/
theorem slot_announceFor_concludeRemoval (c : Nat) (outcome : Outcome) :
    (e.announceFor c fun e => e.concludeRemoval c outcome).slot =
      if e.registry.isEmpty then none else e.slot := by
  unfold announceFor
  split
  · rename_i e' hannounce
    rw [isEmpty_of_announce? e hannounce]
    exact (slot_of_announce? e hannounce : e'.slot = e.slot)
  · exact slot_concludeRemoval e c outcome

/-- A registration that is undone empties the slot exactly if no topic is left. -/
theorem slot_rollBack (c : Nat) (key : String) (id : ListenerId) (error : ClientError) :
    (e.rollBack c key id error).slot =
      if (e.registry.removeListener key id).2.isEmpty then none else e.slot := by
  simp only [rollBack]
  split
  · exact slot_beginDisconnect _ c _
  · split
    · rename_i e' hannounce
      have hslot := slot_of_announce? _ hannounce
      exact hslot
    · rfl

end Elements

/-! ### Topics and slot under steps -/

/-- What an action does to the topics and to the slot. -/
inductive Tenure (e e' : Engine) (action : Action) : Prop
  /-- Whether there are topics and whether there is a worker stays as it is. -/
  | keep (topics : e'.registry.isEmpty = e.registry.isEmpty)
      (slot : e'.slot.isSome = e.slot.isSome)
  /-- There are topics and a worker. -/
  | occupied (topics : e'.registry.isEmpty = false) (slot : e'.slot.isSome = true)
  /-- There are neither topics nor a worker. -/
  | vacant (topics : e'.registry.isEmpty = true) (slot : e'.slot = none)
  /-- Somebody connects on purpose. -/
  | connect {patience : Duration} (purpose : action = .start (.ensureConnected patience))
      (slot : e'.slot.isSome = true)
  /-- Somebody disconnects on purpose. -/
  | disconnect (purpose : action = .start .disconnect ∨ action = .dropClient)
      (slot : e'.slot = none)

section Tenure

variable {e e' : Engine} {action : Action}

/-- What takes registrations out at most, and empties the slot exactly if no topic is left. -/
theorem tenure_of_slot (htopics : e.registry.isEmpty = true → e'.registry.isEmpty = true)
    (hslot : e'.slot = if e'.registry.isEmpty then none else e.slot) : Tenure e e' action := by
  by_cases hempty : e'.registry.isEmpty = true
  · rw [if_pos hempty] at hslot
    exact .vacant hempty hslot
  · -- topics are left, so there were topics before
    rw [if_neg hempty] at hslot
    rw [Bool.not_eq_true] at hempty
    have hbefore : e.registry.isEmpty = false := by
      rw [← Bool.not_eq_true]
      intro h
      rw [htopics h] at hempty
      cases hempty
    exact .keep (hempty.trans hbefore.symm) (by rw [hslot])

theorem tenure_of_callMove {c : Nat} {call : Call} (h : CallMove e c call e') :
    Tenure e e' action := by
  cases h with
  | announce phase ready subscriber =>
    -- neither the announcement nor the end of the call concerns topics or slot
    unfold announceFor
    split
    · rename_i e' hannounce
      have hregistry := registry_of_announce? e hannounce
      have hslot := slot_of_announce? e hannounce
      exact .keep (congrArg Registry.isEmpty hregistry) (congrArg Option.isSome hslot)
    · exact .keep rfl rfl
  -- whether a topic is left is looked at in the step that takes the registration out
  | @undo key id error subscriber cause =>
    refine tenure_of_slot (fun hempty => ?_) ?_
    · rw [registry_rollBack]
      exact Removal.isEmpty_apply hempty (.listener key id)
    · rw [registry_rollBack, slot_rollBack]
  | conclude phase remover cause =>
    refine tenure_of_slot (fun hempty => ?_) ?_
    · rw [registry_concludeRemoval]
      exact hempty
    · rw [registry_concludeRemoval, slot_concludeRemoval]
  | join phase ended =>
    refine .keep ?_ ?_
    · rw [registry_concludeDisconnect]
    · rw [slot_concludeDisconnect]
  | greeted | timeOut | subscribed | restored | crash => exact .keep rfl rfl

/-- A removal gives up the worker if it leaves no topic, and leaves it in the slot if it does. -/
theorem tenure_remove (e : Engine) (what : Removal) (borrows : Bool) (action : Action) :
    Tenure e (e.beginCall (.remove what) borrows) action := by
  refine tenure_of_slot (fun hempty => ?_) ?_
  · rw [registry_beginCall_remove]
    exact what.isEmpty_apply hempty
  · rw [registry_beginCall_remove]
    exact slot_announceFor_concludeRemoval (e.withRemoval what borrows) e.calls.length .done

theorem tenure_beginCall (e : Engine) (request : Request) (borrows : Bool) :
    Tenure e (e.beginCall request borrows) (.start request) := by
  cases request with
  | subscribe topic options listener =>
    simp only [beginCall]
    split
    · exact .keep rfl rfl
    · -- no step lies between the registration and the start of the worker
      refine .occupied ?_ (isSome_slot_ensureWorker _)
      simp only [addCall, registry_ensureWorker]
      exact e.registry.isEmpty_add _ _
  | ensureConnected patience => exact .connect rfl (isSome_slot_ensureWorker e)
  | disconnect => exact .disconnect (.inl rfl) (slot_beginDisconnect _ _ _)
  | remove what => exact tenure_remove e what borrows _

/-- What a step does to the topics and to the slot. -/
theorem tenure_step (h : e.step action = some e') : Tenure e e' action := by
  cases stepMove_of_step h with
  | start alive request => exact tenure_beginCall e request true
  | @closeHandle c key id handle =>
    -- the mark on the handle matters neither for the topics nor for the slot
    cases tenure_remove (e.useHandle c) (.listener key id) false (.closeHandle c) with
    | keep topics slot => exact .keep topics slot
    | occupied topics slot => exact .occupied topics slot
    | vacant topics slot => exact .vacant topics slot
    | connect purpose slot => cases purpose
    | disconnect purpose slot => exact .disconnect purpose slot
  -- workers leave the registry and the slot alone, even when they end or crash
  | worker present running move =>
    obtain ⟨hregistry, -, hslot⟩ := frame_of_workerMove move
    exact .keep (congrArg Registry.isEmpty hregistry) (congrArg Option.isSome hslot)
  | call present move => exact tenure_of_callMove move
  | @answer task awaited answer => cases task <;> exact .keep rfl rfl
  | dropClient alive free vacant => exact .disconnect (.inr rfl) vacant
  | dropWorker alive free taken => exact .disconnect (.inr rfl) (slot_of_takeWorker _ taken)
  | arrive | finish | tick | setCredential | observeConnect | observeDisconnect =>
    exact .keep rfl rfl

/-! ### Topics and slot along runs -/

theorem slot_of_topics_step (h : e.step action = some e')
    (hpurpose : action ≠ .start .disconnect ∧ action ≠ .dropClient)
    (he : e.registry.isEmpty = false → e.slot.isSome = true)
    (htopics : e'.registry.isEmpty = false) : e'.slot.isSome = true := by
  cases tenure_step h with
  | keep topics slot =>
    rw [slot]
    exact he (topics.symm.trans htopics)
  | occupied topics slot => exact slot
  | vacant topics slot =>
    rw [topics] at htopics
    cases htopics
  | connect purpose slot => exact slot
  | disconnect purpose slot =>
    rcases purpose with hdisconnect | hdrop
    · exact absurd hdisconnect hpurpose.1
    · exact absurd hdrop hpurpose.2

theorem topics_of_slot_step (h : e.step action = some e')
    (hpurpose : ∀ patience, action ≠ .start (.ensureConnected patience))
    (he : e.slot.isSome = true → e.registry.isEmpty = false)
    (hslot : e'.slot.isSome = true) : e'.registry.isEmpty = false := by
  cases tenure_step h with
  | keep topics slot =>
    rw [topics]
    exact he (slot.symm.trans hslot)
  | occupied topics slot => exact topics
  | vacant topics slot | disconnect purpose slot =>
    rw [slot] at hslot
    cases hslot
  | connect purpose slot => exact absurd purpose (hpurpose _)

variable {actions : List Action}

/-- As long as nobody disconnects on purpose, there is a worker if there are topics. -/
theorem slot_of_topics (hrun : e.run actions = some e')
    (hpurpose : ∀ action ∈ actions, action ≠ .start .disconnect ∧ action ≠ .dropClient)
    (he : e.registry.isEmpty = false → e.slot.isSome = true) :
    e'.registry.isEmpty = false → e'.slot.isSome = true :=
  run_invariant (p := fun e => e.registry.isEmpty = false → e.slot.isSome = true) hrun hpurpose
    (fun hpurpose hstep he => slot_of_topics_step hstep hpurpose he) he

/-- As long as nobody connects on purpose, there are topics if there is a worker. -/
theorem topics_of_slot (hrun : e.run actions = some e')
    (hpurpose : ∀ action ∈ actions, ∀ patience, action ≠ .start (.ensureConnected patience))
    (he : e.slot.isSome = true → e.registry.isEmpty = false) :
    e'.slot.isSome = true → e'.registry.isEmpty = false :=
  run_invariant (p := fun e => e.slot.isSome = true → e.registry.isEmpty = false) hrun hpurpose
    (fun hpurpose hstep he => topics_of_slot_step hstep hpurpose he) he

end Tenure

/-- The connection lives as long as there are topics. If a run neither disconnects on purpose nor
gives up the client, and there are topics at its end, then there is a worker in the slot, which has
not been told to end. If a run never connects on purpose, and there is a worker in the slot at its
end, then there are topics. -/
theorem slot_follows_registry {settings : Settings} {credential : Option String}
    {actions : List Action} {e : Engine}
    (hrun : (Engine.initial settings credential).run actions = some e) :
    ((∀ action ∈ actions, action ≠ .start .disconnect ∧ action ≠ .dropClient) →
      e.registry.isEmpty = false →
      ∃ w k, e.slot = some w ∧ e.workers[w]? = some k ∧ k.cancelled = false) ∧
    ((∀ action ∈ actions, ∀ patience, action ≠ .start (.ensureConnected patience)) →
      ∀ w, e.slot = some w → e.registry.isEmpty = false) := by
  -- in the initial state there are neither topics nor a worker
  constructor
  · intro hpurpose htopics
    obtain ⟨w, hslot⟩ := Option.isSome_iff_exists.1 (slot_of_topics hrun hpurpose nofun htopics)
    obtain ⟨k, hk, -, hlive⟩ :=
      (slotInv_of_reachable (Reachable.initial.run hrun)).slot_some w hslot
    exact ⟨w, k, hslot, hk, hlive⟩
  · intro hpurpose w hslot
    exact topics_of_slot hrun hpurpose nofun (by rw [hslot]; rfl)

/-- The last topic is removed, another one is subscribed to before the worker has ended, and the
removal returns after that. -/
def subscribedInTeardown : List Action :=
  [.start (.subscribe "news" .none (.sample "first" false)), .resume (.worker 0) true,
    .start (.remove .all), .start (.subscribe "sport" .none (.sample "second" false)),
    .resume (.worker 0) true, .resume (.call 1) true]

/-- The worker of the new topic stays in the slot. -/
theorem slot_follows_registry_teardown :
    ∃ e, (Engine.initial .sample none).run subscribedInTeardown = some e ∧
      e.registry.isEmpty = false ∧ e.slot = some 1 ∧
      ∃ k, e.workers[1]? = some k ∧ k.cancelled = false := by
  obtain ⟨e, hrun, hend⟩ := exists_run (.initial .sample none) subscribedInTeardown
    (fun e => e.slot = some 1) (by decide +kernel)
  have hslot : e.slot = some 1 := of_decide_eq_true hend
  obtain ⟨hworker, htopics⟩ := slot_follows_registry hrun
  have hempty : e.registry.isEmpty = false :=
    htopics (by simp [subscribedInTeardown]) 1 hslot
  obtain ⟨w, k, hw, hk, hlive⟩ := hworker (by simp [subscribedInTeardown]) hempty
  cases hslot.symm.trans hw
  exact ⟨e, hrun, hempty, hslot, k, hk, hlive⟩

end TopicStream.Engine
