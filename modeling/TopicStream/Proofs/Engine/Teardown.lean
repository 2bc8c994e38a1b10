import TopicStream.Proofs.Engine.Accounts
import TopicStream.Proofs.Engine.Session
import TopicStream.Proofs.Engine.Silence
import TopicStream.Proofs.Engine.Undoing

/-!
# Teardowns come to an end

A call that gives up the worker in the slot waits for its end. The worker has been told to end and
looks at that before anything else, wherever it stands, so that nothing but the two is needed: the
worker ends if it has not, and then the call does. So no call waits for a worker where nothing can
go on (`joining_of_quiescent`), and a teardown from a state in which nothing else is going on takes
two steps at most, whatever is still unanswered (`teardown_completes`).
-/

namespace TopicStream.Engine

open Subscription

/-! ### Calls that wait for a worker -/

/-- The workers that calls wait for have been given up. -/
def JoinsRetired (e : Engine) : Prop :=
  ∀ (c : Nat) (call : Call) (w : Nat) (outcome : Outcome), e.calls[c]? = some call →
    call.phase = .joining w outcome → e.Retired w

section Joining

variable {e e' : Engine} {c : Nat} {call call' : Call} {w : Nat} {outcome : Outcome}

/-- A call gives up a worker and waits for its end, if it is in that phase afterwards. -/
theorem slot_of_closes {outcome' : Outcome} (h : Closes e e' c outcome')
    (hcall : e.calls[c]? = some call) (hcall' : e'.calls[c]? = some call')
    (hphase : call'.phase = .joining w outcome) : e.slot = some w ∧ e'.slot = none := by
  cases h with
  | ends proceeds =>
    cases (proceeds.goes.self hcall).symm.trans hcall'
    cases hphase
  | joins occupied vacated proceeds =>
    cases (proceeds.goes.self hcall).symm.trans hcall'
    cases hphase
    exact ⟨occupied, vacated⟩

theorem slot_of_callMove (h : CallMove e c call e') (hcall : e.calls[c]? = some call)
    (hcall' : e'.calls[c]? = some call') (hphase : call'.phase = .joining w outcome) :
    e.slot = some w ∧ e'.slot = none := by
  have hends {outcome' : Outcome} (hgoes : Goes e e' c (.ended outcome')) :
      e.slot = some w ∧ e'.slot = none := by
    cases (hgoes.self hcall).symm.trans hcall'
    cases hphase
  cases h with
  | @announce deadline key id phase ready subscriber =>
    rcases proceeds_announceFor e c fun e => e.endCall c (.subscribed key id) with
      ⟨clientId, topics, -, hproceeds⟩ | ⟨-, heq⟩
    · cases (hproceeds.goes.self hcall).symm.trans hcall'
      cases hphase
    · rw [heq] at hends ⊢
      exact hends (goes_endCall e c _)
  | @undo key id error subscriber cause =>
    rcases closes_or_proceeds_rollBack e c key id error with
      hcloses | ⟨clientId, topics, hproceeds⟩
    · exact slot_of_closes hcloses hcall hcall' hphase
    · cases (hproceeds.goes.self hcall).symm.trans hcall'
      cases hphase
  | conclude => exact slot_of_closes (closes_concludeRemoval e c _) hcall hcall' hphase
  | join => exact hends (goes_concludeDisconnect e c _)
  | greeted | timeOut | subscribed | restored | crash => exact hends (goes_endCall e c _)

/-- A call that begins waits for a worker only if it gives it up. -/
theorem slot_of_beginCall {request : Request} {borrows : Bool}
    (hcall' : (e.beginCall request borrows).calls[e.calls.length]? = some call')
    (hphase : call'.phase = .joining w outcome) :
    e.slot = some w ∧ (e.beginCall request borrows).slot = none := by
  cases request with
  | subscribe topic options listener =>
    simp only [beginCall] at hcall'
    split at hcall'
    · cases (getElem?_addCall_length e _ _ _ _).symm.trans hcall'
      cases hphase
    · rename_i htopic
      obtain ⟨-, call, hcall, -, -, hopen⟩ := beginCall_subscribe e htopic options listener borrows
      simp only [beginCall, if_neg htopic] at hcall
      cases hcall.symm.trans hcall'
      rw [hphase] at hopen
      cases hopen
  | ensureConnected patience =>
    cases (getElem?_beginCall_ensureConnected e patience borrows).symm.trans hcall'
    cases hphase
  | disconnect =>
    let e₀ := e.addCall .disconnect borrows none (.ended .done)
    exact slot_of_closes (e := e₀) (closes_beginDisconnect e₀ e.calls.length .done)
      (getElem?_addCall_length e _ _ _ _) hcall' hphase
  | remove what =>
    have hcall₀ := getElem?_withRemoval e what borrows
    rcases proceeds_beginCall_remove e what borrows with ⟨clientId, topics, hproceeds⟩ | heq
    · cases (hproceeds.goes.self hcall₀).symm.trans hcall'
      cases hphase
    · rw [heq] at hcall' ⊢
      exact slot_of_closes (e := e.withRemoval what borrows)
        (closes_concludeRemoval _ e.calls.length .done) hcall₀ hcall' hphase

/-- A call that waits for a worker after a step has waited for it before, or the step has given the
worker up. -/
theorem joining_step {action : Action} (h : e.step action = some e')
    (hcall' : e'.calls[c]? = some call') (hphase : call'.phase = .joining w outcome) :
    (∃ call, e.calls[c]? = some call ∧ call.phase = .joining w outcome) ∨
      (e.slot = some w ∧ e'.slot = none) := by
  cases hcall : e.calls[c]? with
  | some call =>
    obtain ⟨call₁, hcall₁, -, -, hstep⟩ := callStep_of_step h hcall
    cases hcall'.symm.trans hcall₁
    cases hstep with
    | keep phase => exact .inl ⟨call, rfl, phase.symm.trans hphase⟩
    | answer answer phase =>
      -- an answer is nothing that a call waits for that waits for a worker
      left
      refine ⟨call, rfl, ?_⟩
      rw [hphase] at phase
      cases hold : call.phase <;> rw [hold] at phase <;> cases phase
      rfl
    | move preferAnswer move => exact .inr (slot_of_callMove move hcall hcall' hphase)
  | none =>
    obtain ⟨rfl, request, hbegins⟩ := exists_begins_of_step h hcall hcall'
    right
    cases hbegins with
    | start request => exact slot_of_beginCall hcall' hphase
    | @closeHandle c₁ key id handle =>
      have hlength : (e.useHandle c₁).calls.length = e.calls.length := List.length_modify ..
      rw [← hlength] at hcall'
      exact slot_of_beginCall (e := e.useHandle c₁) hcall' hphase

theorem joinsRetired_step {action : Action} (hinv : e.core.SlotInv) (h : JoinsRetired e)
    (hstep : e.step action = some e') : JoinsRetired e' := by
  intro c call' w outcome hcall' hphase
  rcases joining_step hstep hcall' hphase with ⟨call, hcall, hold⟩ | ⟨hslot, hvacated⟩
  · -- a worker that has been given up does not come back
    have hretired := h c call w outcome hcall hold
    exact (doneBy_step hinv hstep hretired.started (hretired.step hinv hstep)).2
  · obtain ⟨k, hk, -, -⟩ := hinv.slot_some w hslot
    have hstarted : w < e.workers.length := (List.getElem?_eq_some_iff.1 hk).1
    exact (doneBy_step hinv hstep hstarted (by rw [hvacated]; exact nofun)).2

end Joining

theorem joinsRetired_of_reachable {settings : Settings} {credential : Option String} {e : Engine}
    (he : Reachable settings credential e) : JoinsRetired e := by
  induction he with
  | initial =>
    intro c call w outcome hcall
    cases hcall
  | step action before happens ih =>
    exact joinsRetired_step (slotInv_of_reachable before) ih happens

/-! ### Where nothing can go on -/

section Quiescent

variable {e : Engine}

/-- A worker that has been told to end can go on as long as it has not. -/
theorem resumeWorker_of_cancelled {w : Nat} {k : Worker} (hk : e.workers[w]? = some k)
    (hover : k.phase.isOver = false) (hcancelled : k.cancelled = true) :
    e.resumeWorker w = some (e.finishWorker w k.epoch) := by
  rw [resumeWorker, hk]
  simp [hover, hcancelled]

/-- A call that waits for a worker that has ended can go on. -/
theorem resumeCall_of_joining {c : Nat} {call : Call} {w : Nat} {outcome : Outcome}
    (hcall : e.calls[c]? = some call) (hphase : call.phase = .joining w outcome)
    (preferAnswer : Bool) :
    e.resumeCall c preferAnswer =
      if e.isOver w then some (e.concludeDisconnect c outcome) else none := by
  simp only [resumeCall, hcall, hphase]

/-- Where nothing can go on, all workers have ended but the one in the slot. -/
theorem isOver_of_quiescent (hinv : e.core.SlotInv) (hquiet : Quiescent e) {w : Nat} {k : Worker}
    (hk : e.workers[w]? = some k) (hout : e.slot ≠ some w) : k.phase.isOver = true := by
  rcases hinv.others w k hk hout with hcancelled | hover
  · by_contra hnot
    have hgoes := resumeWorker_of_cancelled hk (by simpa using hnot) hcancelled
    have hnone : e.resumeWorker w = none := hquiet (.worker w) true
    rw [hgoes] at hnone
    cases hnone
  · exact hover

/-- Where nothing can go on, no call waits for a worker. -/
theorem joining_of_quiescent (hinv : e.core.SlotInv) (hjoins : JoinsRetired e)
    (hquiet : Quiescent e) {c : Nat} {call : Call} (hcall : e.calls[c]? = some call) (w : Nat)
    (outcome : Outcome) : call.phase ≠ .joining w outcome := by
  intro hphase
  have hretired := hjoins c call w outcome hcall hphase
  obtain ⟨k, hk⟩ : ∃ k, e.workers[w]? = some k := ⟨_, List.getElem?_eq_getElem hretired.started⟩
  have hover : e.isOver w = true := by
    rw [isOver, hk]
    exact isOver_of_quiescent hinv hquiet hk hretired.out
  -- the worker has ended, so that the call could go on
  have hnone : e.resumeCall c true = none := hquiet (.call c) true
  rw [resumeCall_of_joining hcall hphase true, if_pos hover] at hnone
  cases hnone

end Quiescent

/-! ### Runs of tasks alone -/

/-- Whether an action lets a task go on. -/
def Action.isResume : Action → Bool
  | .resume _ _ => true
  | _ => false

section Stages

variable {stage : Nat → Engine → Prop} {n : Nat} {e e' : Engine} {actions : List Action}
  (hstep : ∀ {n : Nat} {e e' : Engine} {task : Task} {preferAnswer : Bool}, stage n e →
    e.step (.resume task preferAnswer) = some e' → ∃ m < n, stage m e')

include hstep

/-- Where the stage goes down with every task that goes on, it bounds the runs of tasks alone. -/
theorem exists_stage_of_run (h : stage n e) (hresume : ∀ action ∈ actions, action.isResume = true)
    (hrun : e.run actions = some e') : ∃ m, stage m e' ∧ actions.length + m ≤ n := by
  induction actions generalizing e n with
  | nil =>
    cases hrun
    exact ⟨n, h, by simp⟩
  | cons action actions ih =>
    obtain ⟨hfirst, hothers⟩ := List.forall_mem_cons.1 hresume
    obtain ⟨e₁, hfirstStep, hrest⟩ := Option.bind_eq_some_iff.1 hrun
    cases action with
    | resume task preferAnswer =>
      obtain ⟨m, hm, hstage⟩ := hstep h hfirstStep
      obtain ⟨m', hstage', hle⟩ := ih hstage hothers hrest
      refine ⟨m', hstage', ?_⟩
      rw [List.length_cons]
      omega
    | _ => cases hfirst

/-- So the tasks come to rest by themselves. -/
theorem exists_quiescent_of_stage (h : stage n e) :
    ∃ actions e', (∀ action ∈ actions, action.isResume = true) ∧ e.run actions = some e' ∧
      Quiescent e' := by
  induction n using Nat.strongRecOn generalizing e with
  | ind n ih =>
    by_cases hquiet : Quiescent e
    · exact ⟨[], e, nofun, rfl, hquiet⟩
    · simp only [Quiescent, not_forall] at hquiet
      obtain ⟨task, preferAnswer, hgoes⟩ := hquiet
      obtain ⟨e₁, he₁⟩ := Option.ne_none_iff_exists'.1 hgoes
      obtain ⟨m, hm, hstage⟩ := hstep h he₁
      obtain ⟨actions, e', hresume, hrun, hend⟩ := ih m hm hstage
      exact ⟨.resume task preferAnswer :: actions, e', List.forall_mem_cons.2 ⟨rfl, hresume⟩,
        (run_cons he₁ actions).trans hrun, hend⟩

end Stages

/-! ### The course of a teardown -/

/-- A call has torn the connection down since a state in which nothing else was going on. -/
structure TornDown (e : Engine) (c : Nat) (registry : Registry Listener) (e' : Engine) : Prop where
  /-- There is no current worker. -/
  slot : e'.slot = none
  /-- All workers have ended. -/
  workers : ∀ (w : Nat) (k : Worker), e'.workers[w]? = some k → k.phase.isOver = true
  /-- There is no session. -/
  session : e'.session = .none
  /-- Calls that wait for a greeting know. -/
  ready : e'.ready = false
  /-- The connection is idle. -/
  connection : e'.connection = .idle
  /-- The registry is the one that the teardown leaves. -/
  registry : e'.registry = registry
  /-- No time has passed. -/
  now : e'.now = e.now
  /-- The call has returned that it has done what it was asked. -/
  call : ∃ call, e'.calls[c]? = some call ∧ call.phase = .ended .done
  /-- All other calls have ended too. -/
  calls : ∀ (i : Nat) (call : Call), e'.calls[i]? = some call → call.phase.isOver = true
  /-- All that has happened is that the call has given up the worker in the slot, if there was one,
  and has returned. -/
  events : (e.slot = none ∧ e'.events = e.events ++ [.returned c .done]) ∨
    ∃ w, e.slot = some w ∧ e'.events = e.events ++ [.retired w (some c), .returned c .done]

/-- A call has given up a worker and waits for its end, and nothing else is going on. -/
structure Leaving (e : Engine) (c : Nat) (registry : Registry Listener) (w : Nat) (e' : Engine) :
    Prop where
  /-- The slot is in order. -/
  ordered : e'.core.SlotInv
  /-- The worker was the one in the slot. -/
  occupied : e.slot = some w
  /-- There is no current worker any more. -/
  slot : e'.slot = none
  /-- There is no session any more. -/
  session : e'.session = .none
  /-- Calls that wait for a greeting know. -/
  ready : e'.ready = false
  /-- The registry is the one that the teardown leaves. -/
  registry : e'.registry = registry
  /-- No time has passed. -/
  now : e'.now = e.now
  /-- The call waits for the worker. -/
  call : ∃ call, e'.calls[c]? = some call ∧ call.phase = .joining w .done
  /-- All other calls have ended. -/
  others : ∀ (i : Nat) (call : Call), i ≠ c → e'.calls[i]? = some call → call.phase.isOver = true
  /-- The worker has been told to end. -/
  worker : ∃ k, e'.workers[w]? = some k ∧ k.cancelled = true
  /-- All other workers have ended. -/
  workers : ∀ (i : Nat) (k : Worker), i ≠ w → e'.workers[i]? = some k → k.phase.isOver = true
  /-- All that has happened is that the worker has been given up. -/
  events : e'.events = e.events ++ [.retired w (some c)]

/-- How many steps a teardown still takes. -/
inductive Stage (e : Engine) (c : Nat) (registry : Registry Listener) : Nat → Engine → Prop
  /-- The worker has to end, and then the call. -/
  | leaving {w : Nat} {e' : Engine} (leaving : Leaving e c registry w e')
      (runs : e'.isOver w = false) : Stage e c registry 2 e'
  /-- The call has to end. -/
  | left {w : Nat} {e' : Engine} (leaving : Leaving e c registry w e')
      (ended : e'.isOver w = true) : Stage e c registry 1 e'
  /-- All is done. -/
  | done {e' : Engine} (tornDown : TornDown e c registry e') : Stage e c registry 0 e'

section Course

variable {e e' e'' : Engine} {c : Nat} {registry : Registry Listener} {w : Nat} {task : Task}
  {preferAnswer : Bool}

/-- A call that has ended cannot go on. -/
theorem resumeCall_of_isOver {i : Nat} {call : Call} (hcall : e.calls[i]? = some call)
    (hover : call.phase.isOver = true) : e.resumeCall i preferAnswer = none := by
  cases hphase : call.phase with
  | ended outcome => simp only [resumeCall, hcall, hphase]
  | _ =>
    rw [hphase] at hover
    cases hover

theorem isOver_eq_of_getElem? {k : Worker} (hk : e.workers[w]? = some k) :
    e.isOver w = k.phase.isOver := by
  rw [isOver, hk]

/-- Where a call has ended that alone was going on, all calls have. -/
theorem isOver_of_goes {outcome : Outcome} (hgoes : Goes e e' c (.ended outcome))
    (hcall : ∃ call, e.calls[c]? = some call)
    (hothers : ∀ (i : Nat) (call : Call), i ≠ c → e.calls[i]? = some call →
      call.phase.isOver = true)
    (i : Nat) (call' : Call) (hcall' : e'.calls[i]? = some call') : call'.phase.isOver = true := by
  by_cases hi : i = c
  · subst hi
    obtain ⟨call, hcall⟩ := hcall
    cases (hgoes.self hcall).symm.trans hcall'
    rfl
  · rw [hgoes.others hi] at hcall'
    exact hothers i call' hi hcall'

/-- The worker that has been given up ends as it goes on. -/
theorem Leaving.ends (h : Leaving e c registry w e')
    (hstep : e'.step (.resume (.worker w) preferAnswer) = some e'') :
    e'.isOver w = false ∧ Leaving e c registry w e'' ∧ e''.isOver w = true := by
  obtain ⟨k, hk, hover, -⟩ := workerMove_resumeWorker hstep
  have hstarted : w < e'.workers.length := (List.getElem?_eq_some_iff.1 hk).1
  have hretired : e'.Retired w := ⟨hstarted, by rw [h.slot]; exact nofun⟩
  have hordered := slotInv_step h.ordered hstep
  obtain rfl := eq_setWorker_of_retired h.ordered hretired hstep
  have hfinished : (e'.setWorker w .finished).workers[w]? = some { k with phase := .finished } := by
    simp [setWorker, hk]
  refine ⟨(isOver_eq_of_getElem? hk).trans hover, ?_, isOver_eq_of_getElem? hfinished⟩
  obtain ⟨k₀, hk₀, hcancelled⟩ := h.worker
  cases hk.symm.trans hk₀
  refine ⟨hordered, h.occupied, h.slot, h.session, h.ready, h.registry, h.now, h.call, h.others,
    ⟨_, hfinished, hcancelled⟩, fun i k' hne hk' => h.workers i k' hne ?_, h.events⟩
  -- the other workers are where they were
  rw [← hk']
  simp [setWorker, hne.symm]

/-- The call ends after the worker. -/
theorem Leaving.returns (h : Leaving e c registry w e')
    (hstep : e'.step (.resume (.call c) preferAnswer) = some e'') :
    e'.isOver w = true ∧ TornDown e c registry e'' := by
  obtain ⟨call, hcall, hphase⟩ := h.call
  have hgoes : e'.resumeCall c preferAnswer = some e'' := hstep
  rw [resumeCall_of_joining hcall hphase preferAnswer] at hgoes
  split at hgoes
  · rename_i hover
    cases hgoes
    -- nobody has started a worker since, and so the connection becomes idle
    have hconclude : e'.concludeDisconnect c .done =
        { e' with connection := .idle }.endCall c .done := by
      rw [concludeDisconnect, h.slot]
      rfl
    have hreturns := goes_concludeDisconnect e' c .done
    refine ⟨hover, ?_⟩
    constructor
    case slot => exact (slot_concludeDisconnect e' c .done).trans h.slot
    case workers =>
      intro i k hk
      have hk' : e'.workers[i]? = some k := by
        rw [hconclude] at hk
        exact hk
      by_cases hi : i = w
      · subst hi
        exact (isOver_eq_of_getElem? hk').symm.trans hover
      · exact h.workers i k hi hk'
    case session =>
      rw [hconclude]
      exact h.session
    case ready =>
      rw [hconclude]
      exact h.ready
    case connection =>
      rw [hconclude]
      rfl
    case registry => exact (registry_concludeDisconnect e' c .done).trans h.registry
    case now => exact (proceeds_concludeDisconnect e' c .done).now.trans h.now
    case call => exact ⟨_, hreturns.self hcall, rfl⟩
    case calls => exact isOver_of_goes hreturns ⟨call, hcall⟩ h.others
    case events =>
      refine .inr ⟨w, h.occupied, ?_⟩
      rw [(proceeds_concludeDisconnect e' c .done).events, h.events, List.append_assoc]
      rfl
  · cases hgoes

/-- Where all tasks have ended none can go on. -/
theorem TornDown.quiescent (h : TornDown e c registry e') : Quiescent e' := by
  intro task preferAnswer
  cases hstep : e'.step (.resume task preferAnswer) with
  | none => rfl
  | some e'' =>
    cases task with
    | worker i =>
      obtain ⟨k, hk, hover, -⟩ := workerMove_resumeWorker hstep
      cases hover.symm.trans (h.workers i k hk)
    | call i =>
      obtain ⟨call, hcall, -⟩ := callMove_resumeCall hstep
      cases (resumeCall_of_isOver hcall (h.calls i call hcall)).symm.trans hstep

/-- Each task that goes on brings a teardown nearer to its end. -/
theorem Stage.step {n : Nat} (h : Stage e c registry n e')
    (hstep : e'.step (.resume task preferAnswer) = some e'') :
    ∃ m < n, Stage e c registry m e'' := by
  -- while the call waits, no task can go on but the call and the worker
  have hleaving {w : Nat} (h : Leaving e c registry w e') :
      (e'.isOver w = false ∧ Leaving e c registry w e'' ∧ e''.isOver w = true) ∨
        (e'.isOver w = true ∧ TornDown e c registry e'') := by
    cases task with
    | worker i =>
      obtain ⟨k, hk, hover, -⟩ := workerMove_resumeWorker hstep
      by_cases hi : i = w
      · subst hi
        exact .inl (h.ends hstep)
      · cases hover.symm.trans (h.workers i k hi hk)
    | call i =>
      by_cases hi : i = c
      · subst hi
        exact .inr (h.returns hstep)
      · obtain ⟨call, hcall, -⟩ := callMove_resumeCall hstep
        cases (resumeCall_of_isOver hcall (h.others i call hi hcall)).symm.trans hstep
  cases h with
  | leaving leaving runs =>
    rcases hleaving leaving with ⟨-, hnext, hover⟩ | ⟨hover, -⟩
    · exact ⟨1, by omega, .left hnext hover⟩
    · cases runs.symm.trans hover
  | left leaving ended =>
    rcases hleaving leaving with ⟨hruns, -⟩ | ⟨-, hdone⟩
    · cases hruns.symm.trans ended
    · exact ⟨0, by omega, .done hdone⟩
  | done tornDown => cases (tornDown.quiescent task preferAnswer).symm.trans hstep

/-- A teardown that has come to rest is done. -/
theorem Stage.tornDown_of_quiescent {n : Nat} (h : Stage e c registry n e')
    (hquiet : Quiescent e') : TornDown e c registry e' := by
  cases h with
  | leaving leaving runs =>
    obtain ⟨k, hk, hcancelled⟩ := leaving.worker
    have hover := (isOver_eq_of_getElem? hk).symm.trans runs
    cases (hquiet (.worker _) true).symm.trans (resumeWorker_of_cancelled hk hover hcancelled)
  | left leaving ended =>
    obtain ⟨call, hcall, hphase⟩ := leaving.call
    have hgoes := resumeCall_of_joining hcall hphase true
    rw [if_pos ended] at hgoes
    cases (hquiet (.call c) true).symm.trans hgoes
  | done tornDown => exact tornDown

end Course

/-! ### The beginning of a teardown -/

/-- An action begins a teardown, which leaves a registry: a disconnection, or a removal after which
there are no topics. -/
inductive Teardown (e : Engine) : Action → Registry Listener → Prop
  /-- Disconnecting. -/
  | disconnect (alive : e.clientAlive = true) : Teardown e (.start .disconnect) e.registry
  /-- Removing all that there is. -/
  | remove (alive : e.clientAlive = true) {what : Removal}
      (empty : (what.apply e.registry).isEmpty = true) :
      Teardown e (.start (.remove what)) (what.apply e.registry)
  /-- Closing the handle of the last registration. -/
  | closeHandle {c : Nat} {key : String} {id : ListenerId}
      (handle : e.calls[c]?.bind Call.handle? = some (key, id))
      (empty : ((Removal.listener key id).apply e.registry).isEmpty = true) :
      Teardown e (.closeHandle c) ((Removal.listener key id).apply e.registry)

/-- A call has been added, and the registry may have been changed, but nothing else. -/
structure Adds (e : Engine) (registry : Registry Listener) (e' : Engine) : Prop where
  /-- The workers and what concerns them are as before. -/
  core : e'.core = e.core
  /-- The registry is the given one. -/
  registry : e'.registry = registry
  /-- Nothing has happened. -/
  events : e'.events = e.events
  /-- No time has passed. -/
  now : e'.now = e.now
  /-- The call is there. -/
  call : ∃ call, e'.calls[e.calls.length]? = some call
  /-- The others are in their phases. -/
  others : ∀ (i : Nat) (call : Call), i ≠ e.calls.length → e'.calls[i]? = some call →
    ∃ call₀, e.calls[i]? = some call₀ ∧ call₀.phase = call.phase

section Begin

variable {e e' : Engine} {c : Nat} {registry : Registry Listener} {action : Action}

theorem adds_addCall (e : Engine) (registry : Registry Listener) (request : Request)
    (borrows : Bool) (phase : Call.Phase) :
    Adds e registry ({ e with registry }.addCall request borrows none phase) := by
  refine ⟨rfl, rfl, rfl, rfl, ⟨_, getElem?_addCall_length { e with registry } _ _ _ _⟩, ?_⟩
  intro i call hne hcall
  have hlt : i < e.calls.length + 1 := by
    simpa [addCall] using (List.getElem?_eq_some_iff.1 hcall).1
  have hi : i < e.calls.length := by omega
  rw [addCall, List.getElem?_append_left hi] at hcall
  exact ⟨call, hcall, rfl⟩

/-- A removal after which there are no topics has nothing to announce and disconnects. -/
theorem beginCall_remove_of_isEmpty (e : Engine) (what : Removal) (borrows : Bool)
    (hempty : (what.apply e.registry).isEmpty = true) :
    e.beginCall (.remove what) borrows =
      (e.withRemoval what borrows).beginDisconnect e.calls.length .done := by
  have hnothing : (e.withRemoval what borrows).announce? (.call e.calls.length) = none := by
    rw [announce?, announcement?_of_isEmpty (e.withRemoval what borrows) hempty]
    rfl
  rw [beginCall_remove_eq, announceFor, hnothing]
  exact concludeRemoval_of_isEmpty (e.withRemoval what borrows) hempty _ _

/-- A teardown adds a call and gives up the worker in the slot, if there is one. -/
theorem Teardown.exists_adds (h : Teardown e action registry) :
    ∃ e₀, Adds e registry e₀ ∧ e.step action = some (e₀.beginDisconnect e.calls.length .done) := by
  cases h with
  | disconnect alive =>
    refine ⟨_, adds_addCall e e.registry .disconnect true (.ended .done), ?_⟩
    rw [step, if_pos alive]
    rfl
  | @remove alive what empty =>
    refine ⟨_, adds_addCall e (what.apply e.registry) (.remove what) true (.ended .done), ?_⟩
    rw [step, if_pos alive, beginCall_remove_of_isEmpty e what true empty]
    rfl
  | @closeHandle c key id handle empty =>
    let what := Removal.listener key id
    have hlength : (e.useHandle c).calls.length = e.calls.length := List.length_modify ..
    have hadds := adds_addCall (e.useHandle c) (what.apply e.registry) (.remove what) false
      (.ended .done)
    refine ⟨_, ⟨hadds.core, hadds.registry, hadds.events, hadds.now, hlength ▸ hadds.call, ?_⟩, ?_⟩
    · intro i call hne hcall
      obtain ⟨call₀, hcall₀, hphase⟩ := hadds.others i call (hlength ▸ hne) hcall
      -- the mark on the handle is not part of the phase
      rw [useHandle, List.getElem?_modify] at hcall₀
      obtain ⟨call₁, hcall₁, rfl⟩ := Option.map_eq_some_iff.1 hcall₀
      refine ⟨call₁, hcall₁, ?_⟩
      rw [← hphase]
      split <;> rfl
    · rw [step, handle]
      have hbegin := beginCall_remove_of_isEmpty (e.useHandle c) what false empty
      rw [hlength] at hbegin
      exact congrArg some hbegin

/-- Where the slot is empty there is no session. -/
theorem session_of_vacant (hsession : e.core.SessionInv) (hslot : e.slot = none) :
    e.session = .none ∧ e.ready = false := by
  have hready : e.session.ready = false := by
    by_contra hnot
    obtain ⟨w, -, -, hs, -⟩ := hsession.session (by simpa [core] using hnot)
    cases hslot.symm.trans hs
  have hclient : e.session.clientId = "" := hsession.clientId hready
  refine ⟨?_, hsession.ready.trans hready⟩
  cases hs : e.session with
  | mk clientId ready =>
    rw [hs] at hready hclient
    cases hready
    cases hclient
    rfl

theorem beginDisconnect_of_vacant (hslot : e.slot = none) (c : Nat) (outcome : Outcome) :
    e.beginDisconnect c outcome = { e with connection := .idle }.endCall c outcome := by
  simp [beginDisconnect, takeWorker, concludeDisconnect, hslot]

/-- The worker in the slot is the only one that is going on, and the call the only one that has not
ended yet. -/
structure Alone (e : Engine) (c : Nat) : Prop where
  /-- The call is there. -/
  call : ∃ call, e.calls[c]? = some call
  /-- All others have ended. -/
  others : ∀ (i : Nat) (call : Call), i ≠ c → e.calls[i]? = some call → call.phase.isOver = true
  /-- All workers have ended that are not in the slot. -/
  workers : ∀ (i : Nat) (k : Worker), e.slot ≠ some i → e.workers[i]? = some k →
    k.phase.isOver = true

/-- Without a worker in the slot a call that disconnects is done at once. -/
theorem tornDown_of_vacant (hsession : e.core.SessionInv) (h : Alone e c) (hslot : e.slot = none) :
    TornDown e c e.registry (e.beginDisconnect c .done) := by
  obtain ⟨call, hcall⟩ := h.call
  obtain ⟨hnone, hready⟩ := session_of_vacant hsession hslot
  let e₀ := { e with connection := .idle }
  have hend : e.beginDisconnect c .done = e₀.endCall c .done := beginDisconnect_of_vacant hslot c _
  have hreturns := goes_endCall e₀ c .done
  rw [hend]
  constructor
  case slot => exact hslot
  case workers =>
    intro w k hk
    exact h.workers w k (by rw [hslot]; exact nofun) hk
  case session => exact hnone
  case ready => exact hready
  case connection => rfl
  case registry => rfl
  case now => rfl
  case call => exact ⟨_, hreturns.self hcall, rfl⟩
  case calls => exact isOver_of_goes (e := e₀) hreturns h.call h.others
  case events => exact .inl ⟨hslot, (proceeds_endCall e₀ c .done).events⟩

/-- With a worker in the slot it gives it up. -/
theorem leaving_beginDisconnect (hordered : e.core.SlotInv) (h : Alone e c) {w : Nat}
    (hslot : e.slot = some w) : Leaving e c e.registry w (e.beginDisconnect c .done) := by
  obtain ⟨call, hcall⟩ := h.call
  have hcore := core_beginDisconnect hslot c .done
  have hworkers : (e.beginDisconnect c .done).workers = (e.core.retire w).workers :=
    congrArg Core.workers hcore
  -- with a worker in the slot the call waits, and does not return at once
  have hgives : Proceeds e (e.beginDisconnect c .done) c (.joining w .done)
      [.retired w (some c)] := by
    cases closes_beginDisconnect e c .done with
    | ends proceeds =>
      have hevents := proceeds.events.symm.trans (events_beginDisconnect hslot c .done)
      cases List.append_cancel_left hevents
    | joins occupied vacated proceeds =>
      cases hslot.symm.trans occupied
      exact proceeds
  constructor
  case ordered =>
    rw [hcore]
    exact hordered.callerMove (.retire hslot)
  case occupied => exact hslot
  case slot => exact slot_beginDisconnect e c .done
  case session => exact congrArg Core.session hcore
  case ready => exact congrArg Core.ready hcore
  case registry => exact registry_beginDisconnect e c .done
  case now => exact hgives.now
  case call => exact ⟨_, hgives.goes.self hcall, rfl⟩
  case others =>
    intro i call' hi hcall'
    rw [hgives.goes.others hi] at hcall'
    exact h.others i call' hi hcall'
  case worker => exact exists_cancelled_beginDisconnect hordered hslot c .done
  case workers =>
    intro i k hne hk
    refine h.workers i k (by rw [hslot]; exact fun heq => hne (Option.some.inj heq).symm) ?_
    rw [← hk, hworkers]
    simp [Core.retire, core, hne.symm]
  case events => exact hgives.events

/-- So it is done, or gives the worker up and has two steps left at most. -/
theorem stage_beginDisconnect (hordered : e.core.SlotInv) (hsession : e.core.SessionInv)
    (h : Alone e c) : ∃ n ≤ 2, Stage e c e.registry n (e.beginDisconnect c .done) := by
  cases hslot : e.slot with
  | none => exact ⟨0, by omega, .done (tornDown_of_vacant hsession h hslot)⟩
  | some w =>
    have hleaving := leaving_beginDisconnect hordered h hslot
    cases hover : (e.beginDisconnect c .done).isOver w with
    | true => exact ⟨1, by omega, .left hleaving hover⟩
    | false => exact ⟨2, by omega, .leaving hleaving hover⟩

/-- A teardown is told from the slot, the time and the log before it. -/
theorem Stage.of_base {e₀ : Engine} {n : Nat} (h : Stage e₀ c registry n e')
    (hslot : e₀.slot = e.slot) (hnow : e₀.now = e.now) (hevents : e₀.events = e.events) :
    Stage e c registry n e' := by
  have hleaving {w : Nat} {e' : Engine} (h : Leaving e₀ c registry w e') :
      Leaving e c registry w e' :=
    { h with
      occupied := hslot.symm.trans h.occupied
      now := h.now.trans hnow
      events := hevents ▸ h.events }
  cases h with
  | leaving leaving runs => exact .leaving (hleaving leaving) runs
  | left leaving ended => exact .left (hleaving leaving) ended
  | done tornDown =>
    refine .done { tornDown with now := tornDown.now.trans hnow, events := ?_ }
    rw [← hevents, ← hslot]
    exact tornDown.events

/-- Where a call has been added to ended ones, and only the worker in the slot has not ended, the
call and that worker are alone. -/
theorem Adds.alone {e₀ : Engine} (h : Adds e registry e₀)
    (hcalls : ∀ (i : Nat) (call : Call), e.calls[i]? = some call → call.phase.isOver = true)
    (hworkers : ∀ (i : Nat) (k : Worker), e.slot ≠ some i → e.workers[i]? = some k →
      k.phase.isOver = true) : Alone e₀ e.calls.length where
  call := h.call
  others i call hi hcall := by
    obtain ⟨call₀, hcall₀, hphase⟩ := h.others i call hi hcall
    rw [← hphase]
    exact hcalls i call₀ hcall₀
  workers i k hout hk := by
    have hslot : e₀.slot = e.slot := congrArg Core.slot h.core
    have hsame : e₀.workers = e.workers := congrArg Core.workers h.core
    exact hworkers i k (hslot ▸ hout) (hsame ▸ hk)

theorem Teardown.exists_stage (h : Teardown e action registry) (hordered : e.core.SlotInv)
    (hsession : e.core.SessionInv)
    (hcalls : ∀ (i : Nat) (call : Call), e.calls[i]? = some call → call.phase.isOver = true)
    (hworkers : ∀ (i : Nat) (k : Worker), e.slot ≠ some i → e.workers[i]? = some k →
      k.phase.isOver = true) :
    ∃ e₁, e.step action = some e₁ ∧ ∃ n ≤ 2, Stage e e.calls.length registry n e₁ := by
  obtain ⟨e₀, hadds, hstep⟩ := h.exists_adds
  obtain ⟨n, hn, hstage⟩ := stage_beginDisconnect (hadds.core ▸ hordered) (hadds.core ▸ hsession)
    (hadds.alone hcalls hworkers)
  rw [hadds.registry] at hstage
  exact ⟨_, hstep, n, hn, hstage.of_base (congrArg Core.slot hadds.core) hadds.now hadds.events⟩

/-- Where the connection has been torn down a teardown is done at once and changes nothing. -/
theorem TornDown.again {registry' : Registry Listener} (h : TornDown e c registry e')
    (hsession : e'.core.SessionInv) (hteardown : Teardown e' action registry') :
    ∃ e'', e'.step action = some e'' ∧ TornDown e' e'.calls.length registry' e'' ∧
      e''.core = e'.core := by
  obtain ⟨e₀, hadds, hstep⟩ := hteardown.exists_adds
  have hslot : e₀.slot = none := (congrArg Core.slot hadds.core).trans h.slot
  have hdone := tornDown_of_vacant (hadds.core ▸ hsession)
    (hadds.alone h.calls fun i k _ => h.workers i k) hslot
  rw [hadds.registry] at hdone
  refine ⟨_, hstep, ?_, ?_⟩
  · refine { hdone with now := hdone.now.trans hadds.now, events := .inl ⟨h.slot, ?_⟩ }
    rcases hdone.events with ⟨-, hevents⟩ | ⟨w, hoccupied, -⟩
    · rw [← hadds.events]
      exact hevents
    · cases hslot.symm.trans hoccupied
  · -- the connection has been declared idle before
    have hidle : { e₀ with connection := .idle }.core = e₀.core := by
      have hconnection : e₀.connection = .idle :=
        (congrArg Core.connection hadds.core).trans h.connection
      rw [core, core, hconnection]
    rw [beginDisconnect_of_vacant hslot, core_endCall, hidle, hadds.core]

/-- What a teardown leaves alone where there are no topics. -/
theorem Teardown.registry_eq (h : Teardown e action registry) (hempty : e.registry.isEmpty = true) :
    registry = e.registry := by
  cases h with
  | disconnect alive => rfl
  | remove alive empty => exact Removal.apply_of_isEmpty hempty _
  | closeHandle handle empty => exact Removal.apply_of_isEmpty hempty _

end Begin

/-- A subscription has been announced, and the announcement of the worker is still unanswered. -/
def heldGreeting : List Action :=
  [.start (.subscribe "news" .none (.sample "reader" false))] ++
    openingActions 0 0 (greetingBytes "c1") ++
    [.resume (.worker 0) true, .resume (.call 0) true, .answer (.call 0) .success,
      .resume (.call 0) true]

end TopicStream.Engine
