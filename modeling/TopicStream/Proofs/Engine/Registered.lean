import TopicStream.Proofs.Engine.Moves
import TopicStream.Proofs.Subscription.Registry

/-!
# The registry along runs

A step leaves the registry as it is, adds one registration, or takes registrations out
(`step_registry`): workers never touch it, and of what calls do only the beginning of a
subscription, a removal and the undoing of a registration concern it. So the registry of every
reachable state is well-formed (`wellFormed_of_reachable`).
-/

namespace TopicStream.Engine

open Subscription

/-- What a step can do to the registry. -/
inductive RegistryMove (r : Registry Listener) : Registry Listener → Prop
  /-- Nothing. -/
  | keep : RegistryMove r r
  /-- Adding a registration. -/
  | add (key : String) (listener : Listener) : RegistryMove r (r.add key listener).2
  /-- Taking registrations out. -/
  | remove (what : Removal) : RegistryMove r (what.apply r)

/-! ### The registry under the elements of a step -/

section Elements

variable (e : Engine)

theorem registry_of_takeWorker {call : Option Nat} {w : Nat} {e' : Engine}
    (h : e.takeWorker call = some (w, e')) : e'.registry = e.registry := by
  unfold takeWorker at h
  split at h
  · cases h
  · cases h
    rfl

theorem registry_of_announce? {task : Task} {e' : Engine} (h : e.announce? task = some e') :
    e'.registry = e.registry := by
  obtain ⟨due, -, rfl⟩ := Option.map_eq_some_iff.1 h
  rfl

/-- Without topics there is nothing to announce. -/
theorem announcement?_of_isEmpty (h : e.registry.isEmpty = true) : e.announcement? = none := by
  rw [announcement?, Registry.activeTopics_of_isEmpty _ h]
  simp

variable {e} in
/-- A session that can register announces its topics. -/
theorem announcement?_of_topics (hwf : e.registry.WellFormed)
    (hsession : e.session.canRegister = true) (htopics : e.registry.isEmpty = false) :
    e.announcement? = some (e.session.clientId, e.registry.activeTopics) := by
  have hactive := hwf.activeTopics_ne_nil htopics
  simp [announcement?, hsession, hactive]

@[simp]
theorem registry_ensureWorker : e.ensureWorker.registry = e.registry := by
  unfold ensureWorker
  split <;> rfl

@[simp]
theorem registry_concludeDisconnect (c : Nat) (outcome : Outcome) :
    (e.concludeDisconnect c outcome).registry = e.registry := by
  unfold concludeDisconnect
  split <;> rfl

@[simp]
theorem registry_beginDisconnect (c : Nat) (outcome : Outcome) :
    (e.beginDisconnect c outcome).registry = e.registry := by
  unfold beginDisconnect
  split
  · rename_i w e' htake
    exact (registry_of_takeWorker e htake : e'.registry = e.registry)
  · exact registry_concludeDisconnect e c outcome

@[simp]
theorem registry_concludeRemoval (c : Nat) (outcome : Outcome) :
    (e.concludeRemoval c outcome).registry = e.registry := by
  unfold concludeRemoval
  split
  · exact registry_beginDisconnect e c outcome
  · rfl

/-- An announcement of a call concerns the registry only by what is done without it. -/
theorem registry_announceFor (c : Nat) {otherwise : Engine → Engine}
    (h : (otherwise e).registry = e.registry) :
    (e.announceFor c otherwise).registry = e.registry := by
  unfold announceFor
  split
  · rename_i e' hannounce
    exact (registry_of_announce? e hannounce : e'.registry = e.registry)
  · exact h

/-- Undoing a registration removes it. -/
@[simp]
theorem registry_rollBack (c : Nat) (key : String) (id : ListenerId) (error : ClientError) :
    (e.rollBack c key id error).registry = (e.registry.removeListener key id).2 := by
  simp only [rollBack]
  split
  · exact registry_beginDisconnect _ c _
  · split
    · rename_i e' hannounce
      have hregistry := registry_of_announce? _ hannounce
      exact hregistry
    · rfl

end Elements

/-! ### The registry under steps -/

theorem registryMove_of_callMove {e e' : Engine} {c : Nat} {call : Call}
    (h : CallMove e c call e') : RegistryMove e.registry e'.registry := by
  cases h with
  | announce phase ready subscriber =>
    rw [registry_announceFor]
    · exact .keep
    · rfl
  | undo subscriber cause =>
    rw [registry_rollBack]
    exact .remove (.listener _ _)
  | conclude phase remover cause =>
    rw [registry_concludeRemoval]
    exact .keep
  | join phase ended =>
    rw [registry_concludeDisconnect]
    exact .keep
  | greeted | timeOut | subscribed | restored | crash => exact .keep

/-- A removal takes effect as it begins. -/
theorem registry_beginCall_remove (e : Engine) (what : Removal) (borrows : Bool) :
    (e.beginCall (.remove what) borrows).registry = what.apply e.registry := by
  refine registry_announceFor (e.withRemoval what borrows) e.calls.length ?_
  exact registry_concludeRemoval (e.withRemoval what borrows) e.calls.length .done

theorem registryMove_beginCall (e : Engine) (request : Request) (borrows : Bool) :
    RegistryMove e.registry (e.beginCall request borrows).registry := by
  cases request with
  | subscribe topic options listener =>
    simp only [beginCall]
    split
    · exact .keep
    · simp only [addCall, registry_ensureWorker]
      exact .add _ _
  | ensureConnected patience =>
    simp only [beginCall, addCall, registry_ensureWorker]
    exact .keep
  | disconnect =>
    simp only [beginCall, registry_beginDisconnect]
    exact .keep
  | remove what =>
    rw [registry_beginCall_remove]
    exact .remove what

/-- A step leaves the registry as it is, adds a registration, or takes registrations out. -/
theorem step_registry {e e' : Engine} {action : Action} (h : e.step action = some e') :
    RegistryMove e.registry e'.registry := by
  cases stepMove_of_step h with
  | start alive request => exact registryMove_beginCall e request true
  | @closeHandle c key id handle => exact registryMove_beginCall (e.useHandle c) _ false
  | worker present running move =>
    rw [(frame_of_workerMove move).registry]
    exact .keep
  | call present move => exact registryMove_of_callMove move
  | @answer task awaited answer => cases task <;> exact .keep
  | dropWorker alive free taken =>
    rw [registry_of_takeWorker _ taken]
    exact .keep
  | arrive | finish | tick | dropClient | setCredential | observeConnect | observeDisconnect =>
    exact .keep

theorem RegistryMove.wellFormed {r r' : Registry Listener} (hr : r.WellFormed)
    (h : RegistryMove r r') : r'.WellFormed := by
  cases h with
  | keep => exact hr
  | add key listener => exact hr.add key listener
  | remove what => exact what.wellFormed_apply hr

/-- The registry of every reachable state is well-formed. -/
theorem wellFormed_of_reachable {settings : Settings} {credential : Option String} {e : Engine}
    (he : Reachable settings credential e) : e.registry.WellFormed := by
  -- every step is one of the moves that keep a registry well-formed
  induction he with
  | initial => exact Registry.wellFormed_empty
  | step action before happens ih => exact (step_registry happens).wellFormed ih

end TopicStream.Engine
