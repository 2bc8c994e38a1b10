import TopicStream.Proofs.Engine.Lifetime
import TopicStream.Proofs.Engine.Log

/-!
# Workers that are silent

A worker that is not in the slot has ended or has been told to end, and it never comes back. What
its stream, its request or its announcement still yields does not matter: it looks at the order to
end before anything else, and with the order its epoch is over, so that the last thing it does, to
drop the session, is ignored. So it does nothing any more that can be seen (`Silent`).

## Main results

* `eq_setWorker_of_retired`: all that a step of such a worker does is to end it;
* `silent_run`: along a run such a worker does nothing;
* `silent_of_retired`: from the step on that takes a worker out of the slot, and from the beginning
  of a disconnection on, nothing is done by the workers started before.
-/

namespace TopicStream.Engine

open Subscription

/-! ### What workers have done -/

/-- The worker that does this, if it is the doing of a worker. -/
def Event.worker? : Event → Option Nat
  | .requested w _ | .announced (.worker w) _ _ | .opened w _ | .read w _ _ | .delivered w _ _ _
  | .connected w _ _ | .lost w _ _ => some w
  | _ => none

/-- What a worker has done so far, in order: asking for streams, announcing topics, opening and
reading streams, calling listeners and telling observers. -/
def doneBy (e : Engine) (w : Nat) : List Event :=
  e.events.filter fun event => event.worker? = some w

/-- A worker is not in the slot. -/
structure Retired (e : Engine) (w : Nat) : Prop where
  /-- It has been started. -/
  started : w < e.workers.length
  /-- It is not the current one. -/
  out : e.slot ≠ some w

/-- What is left of a worker between two states. -/
structure Silent (e e' : Engine) (w : Nat) : Prop where
  /-- It has done nothing. -/
  done : e'.doneBy w = e.doneBy w
  /-- It is not the current worker. -/
  retired : e'.Retired w
  /-- If it goes on, it ends, and nothing else changes. -/
  ends : ∀ preferAnswer e'', e'.step (.resume (.worker w) preferAnswer) = some e'' →
    e'' = e'.setWorker w .finished

section Log

variable {e e' : Engine} {w : Nat}

/-- What a worker has done is told from the log of the core. -/
theorem doneBy_core (e : Engine) (w : Nat) :
    e.doneBy w = e.core.log.filter fun event => event.worker? = some w := by
  change e.events.filter _ = (e.events.filter _).filter _
  rw [List.filter_filter]
  refine List.filter_congr fun event _ => ?_
  -- what is the business of callers alone is not done by a worker
  cases event with
  | announced task clientId topics => cases task <;> simp [Event.worker?, Event.isCallers]
  | answered task answer => cases task <;> simp [Event.worker?, Event.isCallers]
  | _ => simp [Event.worker?, Event.isCallers]

theorem doneBy_of_log_eq (hlog : e'.core.log = e.core.log) : e'.doneBy w = e.doneBy w := by
  rw [doneBy_core, doneBy_core, hlog]

/-- What others do does not count. -/
theorem doneBy_of_log {more : List Event} (hlog : e'.core.log = e.core.log ++ more)
    (h : ∀ event ∈ more, event.worker? ≠ some w) : e'.doneBy w = e.doneBy w := by
  have hnone : more.filter (fun event => event.worker? = some w) = [] :=
    List.filter_eq_nil_iff.2 fun event hevent => by simpa using h event hevent
  rw [doneBy_core, doneBy_core, hlog, List.filter_append, hnone, List.append_nil]

end Log

/-! ### Steps of others -/

namespace Core

variable {c c' : Core} {w : Nat}

/-- Callers bring no worker back into the slot that is not there. -/
theorem CallerMove.retired (h : CallerMove c c') (hstarted : w < c.workers.length) :
    w < c'.workers.length ∧ (c.slot ≠ some w → c'.slot ≠ some w) := by
  cases h with
  | keep | idle vacant => exact ⟨hstarted, id⟩
  | start ended =>
    refine ⟨?_, fun _ hslot => ?_⟩
    · simp only [Core.start, List.length_append]
      omega
    · -- the worker that is started is a new one
      have hnew : c.workers.length = w := Option.some.inj hslot
      omega
  | retire occupied =>
    refine ⟨?_, fun _ hslot => ?_⟩
    · rw [Core.retire, List.length_modify]
      exact hstarted
    · cases hslot

/-- An answer or an item is not the doing of a worker. -/
theorem Supply.notes (h : Supply c c') :
    (∃ event, c'.log = c.log ++ [event] ∧ event.worker? = none) ∧
      c'.workers.length = c.workers.length ∧ c'.slot = c.slot := by
  cases h with
  | answer w answer => exact ⟨⟨_, rfl, rfl⟩, List.length_modify .., rfl⟩
  | arrive serial item isRead => exact ⟨⟨_, rfl, rfl⟩, List.length_map .., rfl⟩
  | finish serial isRead => exact ⟨⟨_, rfl, rfl⟩, List.length_map .., rfl⟩

/-- All that a worker notes it has done itself, and it leaves the slot as it is. -/
theorem WorkerStep.notes {k : Worker} (h : WorkerStep c w k c') :
    (∃ more, c'.log = c.log ++ more ∧ ∀ event ∈ more, event.worker? = some w) ∧
      c'.workers.length = c.workers.length ∧ c'.slot = c.slot := by
  have hlength (phase : Worker.Phase) :
      (c.setPhase w phase).workers.length = c.workers.length := List.length_modify ..
  -- what is noted are single events, or one for each observer or listener, with the worker's number
  cases h with
  | finish cancelled => exact ⟨⟨[], (List.append_nil _).symm, nofun⟩, hlength _, rfl⟩
  | attempt live phase headers => exact ⟨⟨_, rfl, by simp [Event.worker?]⟩, hlength _, rfl⟩
  | read live phase => exact ⟨⟨_, rfl, by simp [Event.worker?]⟩, hlength _, rfl⟩
  | lose live phase resumes told =>
    exact ⟨⟨_, rfl, List.forall_mem_map.2 fun _ _ => rfl⟩, hlength _, rfl⟩
  | crash live phase => exact ⟨⟨[], (List.append_nil _).symm, nofun⟩, hlength _, rfl⟩
  | take live phase next => exact ⟨⟨[], (List.append_nil _).symm, nofun⟩, hlength _, rfl⟩
  | deliver live phase next plain calls =>
    refine ⟨⟨_, rfl, List.forall_mem_cons.2 ⟨rfl, ?_⟩⟩, hlength _, rfl⟩
    exact List.forall_mem_map.2 fun _ _ => rfl
  | announce live phase next greeting topics =>
    exact ⟨⟨_, rfl, by simp [Event.worker?]⟩, hlength _, rfl⟩
  | establish live phase next greeting told =>
    refine ⟨⟨_, rfl, List.forall_mem_cons.2 ⟨rfl, ?_⟩⟩, hlength _, rfl⟩
    exact List.forall_mem_map.2 fun _ _ => rfl
  | greet live phase told =>
    exact ⟨⟨_, rfl, List.forall_mem_map.2 fun _ _ => rfl⟩, hlength _, rfl⟩

/-- A worker that has been told to end notes nothing. -/
theorem WorkerStep.notes_of_cancelled {k : Worker} (h : WorkerStep c w k c')
    (hcancelled : k.cancelled = true) : c'.log = c.log := by
  rw [h.eq_of_cancelled hcancelled]
  rfl

end Core

/-! ### Steps -/

section Steps

variable {e e' : Engine} {w : Nat}

/-- A worker that is not in the slot and has not ended has been told to. -/
theorem Retired.cancelled (h : e.Retired w) (hinv : e.core.SlotInv) {k : Worker}
    (hk : e.workers[w]? = some k) (hover : k.phase.isOver = false) : k.cancelled = true := by
  rcases hinv.others w k hk h.out with hcancelled | hended
  · exact hcancelled
  · rw [hover] at hended
    cases hended

/-- All that a step of a worker does that is not in the slot is to end it. -/
theorem eq_setWorker_of_retired (hinv : e.core.SlotInv) (h : e.Retired w) {preferAnswer : Bool}
    (hstep : e.step (.resume (.worker w) preferAnswer) = some e') :
    e' = e.setWorker w .finished := by
  obtain ⟨k, hk, hover, hmove⟩ := workerMove_resumeWorker hstep
  have hcancelled := h.cancelled hinv hk hover
  -- all moves but `finish` are those of a worker that has not been told to end
  cases hmove with
  | finish cancelled =>
    -- its epoch is over, so that the session stays as it is
    have hepoch : e.epoch ≠ k.epoch := (hinv.epoch_ne_of_cancelled hk hcancelled).2.symm
    rw [finishWorker, resetSession, if_neg hepoch]
  | attempt live | read live | lose live | crash live | take live | deliver live | passOver live
  | announce live | establish live | greet live =>
    rw [live] at hcancelled
    cases hcancelled

/-- A worker that is not in the slot after a step has done nothing in that step and is out. -/
theorem doneBy_step {action : Action} (hinv : e.core.SlotInv) (hstep : e.step action = some e')
    (hstarted : w < e.workers.length) (hout : e'.slot ≠ some w) :
    e'.doneBy w = e.doneBy w ∧ e'.Retired w := by
  rcases coreStep_of_step hinv hstep with hmove | hsupply | ⟨w', k, hk, hover, hmove⟩
  · exact ⟨doneBy_of_log_eq hmove.log, (hmove.retired hstarted).1, hout⟩
  · obtain ⟨⟨event, hlog, hnone⟩, hlength, -⟩ := hsupply.notes
    refine ⟨doneBy_of_log hlog ?_, lt_of_lt_of_eq hstarted hlength.symm, hout⟩
    simp [hnone]
  · obtain ⟨⟨more, hlog, hmore⟩, hlength, hslot⟩ := hmove.notes
    refine ⟨?_, lt_of_lt_of_eq hstarted hlength.symm, hout⟩
    by_cases hw : w' = w
    · -- the worker was not in the slot before the step either
      subst hw
      have hretired : e.Retired w' := ⟨hstarted, fun h => hout (hslot.trans h)⟩
      exact doneBy_of_log_eq (hmove.notes_of_cancelled (hretired.cancelled hinv hk hover))
    · refine doneBy_of_log hlog fun event hevent heq => hw ?_
      exact Option.some.inj ((hmore event hevent).symm.trans heq)

/-- A worker that is not in the slot does not come back. -/
theorem Retired.step {action : Action} (h : e.Retired w) (hinv : e.core.SlotInv)
    (hstep : e.step action = some e') : e'.slot ≠ some w := by
  rcases coreStep_of_step hinv hstep with hmove | hsupply | ⟨w', k, -, -, hmove⟩
  · exact (hmove.retired h.started).2 h.out
  · exact fun heq => h.out (hsupply.notes.2.2.symm.trans heq)
  · exact fun heq => h.out (hmove.notes.2.2.symm.trans heq)

end Steps

/-! ### Runs -/

section Runs

variable {settings : Settings} {credential : Option String} {e e₁ e' : Engine} {action : Action}
  {actions : List Action} {w : Nat}

/-- Along a run a worker that is not in the slot does nothing. -/
theorem silent_run (he : Reachable settings credential e) (h : e.Retired w)
    (hrun : e.run actions = some e') : Silent e e' w := by
  -- induction on the actions: the worker stays out of the slot (`Retired.step`), and so it has been
  -- told to end whenever it could go on
  induction actions generalizing e with
  | nil =>
    cases hrun
    exact ⟨rfl, h, fun _ _ => eq_setWorker_of_retired (slotInv_of_reachable he) h⟩
  | cons action actions ih =>
    obtain ⟨e₁, hstep, hrest⟩ := Option.bind_eq_some_iff.1 hrun
    have hinv := slotInv_of_reachable he
    obtain ⟨hdone, hretired⟩ := doneBy_step hinv hstep h.started (h.step hinv hstep)
    have hsilent := ih (he.step action hstep) hretired hrest
    exact ⟨hsilent.done.trans hdone, hsilent.retired, hsilent.ends⟩

theorem slot_of_disconnect (hstep : e.step (.start .disconnect) = some e₁) : e₁.slot = none := by
  cases stepMove_of_step hstep with
  | start alive request => exact slot_beginDisconnect _ _ _

/-- A worker that is taken out of the slot, by whatever step, does nothing any more: it asks for no
stream and opens none, announces nothing, reads no record, calls no listener and tells no observer,
whatever its stream, its request or its announcement still yields. If it goes on, it ends, which
changes neither the session nor the flag nor the state of the connection nor anything else of the
engine. The same holds of all workers started before a disconnection begins, whether it finds a
worker in the slot or not. -/
theorem silent_of_retired (he : Reachable settings credential e) (hstep : e.step action = some e₁)
    (hrun : e₁.run actions = some e') (hstarted : w < e.workers.length)
    (hout : e₁.slot ≠ some w ∨ action = .start .disconnect) : Silent e e' w := by
  have hslot : e₁.slot ≠ some w := by
    rcases hout with hslot | rfl
    · exact hslot
    · rw [slot_of_disconnect hstep]
      exact nofun
  -- nothing is done in the step that takes the worker out, and nothing after it
  obtain ⟨hdone, hretired⟩ := doneBy_step (slotInv_of_reachable he) hstep hstarted hslot
  have hsilent := silent_run (he.step action hstep) hretired hrun
  exact ⟨hsilent.done.trans hdone, hsilent.retired, hsilent.ends⟩

end Runs

/-- A worker is told to end while its announcement is held, with a record in its stream. -/
def heldAnnouncement : List Action :=
  [.start (.subscribe "news" .none (.sample "first" false))] ++
    openingActions 0 0
      (greetingBytes "c1" ++ Text.Utf8.encode "event: news\ndata: 1\n\n".toList) ++
    [.resume (.worker 0) true, .start .disconnect]

/-- A new worker is started and reads its own greeting. Meanwhile the announcement of the old one is
answered, and a chunk of its stream arrives. -/
def answeredLate : List Action :=
  [.start (.ensureConnected ⟨5, 0⟩), .answer (.worker 0) .success,
    .arrive 0 (.ok (Text.Utf8.encode "event: news\ndata: 2\n\n".toList))] ++
    openingActions 1 1 (greetingBytes "c2") ++ [.resume (.worker 1) true, .resume (.worker 0) true]

/-- The old worker is silent from the second disconnection on, which finds no worker in the slot. -/
theorem silent_of_retired_answeredLate :
    ∃ e e₁ e', (Engine.initial .sample none).run heldAnnouncement = some e ∧ e.slot = none ∧
      e.step (.start .disconnect) = some e₁ ∧ e₁.run answeredLate = some e' ∧
      e'.session = ⟨"c2", true⟩ ∧ (arrivals 0 e'.events).length = 2 ∧ Silent e e' 0 := by
  obtain ⟨e, hrun, hend⟩ := exists_run (.initial .sample none) heldAnnouncement
    (fun e => (e.slot = none && 0 < e.workers.length) &&
      (e.run (.start .disconnect :: answeredLate)).any fun e' =>
        e'.session = ⟨"c2", true⟩ && (arrivals 0 e'.events).length = 2) (by decide +kernel)
  obtain ⟨hstate, hrest⟩ := Bool.and_eq_true_iff.1 hend
  obtain ⟨hslot, hstarted⟩ := Bool.and_eq_true_iff.1 hstate
  obtain ⟨e', hrun', hend'⟩ := exists_run e (.start .disconnect :: answeredLate) _ hrest
  obtain ⟨hsession, harrivals⟩ := Bool.and_eq_true_iff.1 hend'
  obtain ⟨e₁, hstep, hrun₁⟩ := Option.bind_eq_some_iff.1 hrun'
  exact ⟨e, e₁, e', hrun, of_decide_eq_true hslot, hstep, hrun₁, of_decide_eq_true hsession,
    of_decide_eq_true harrivals, silent_of_retired (Reachable.initial.run hrun) hstep hrun₁
      (of_decide_eq_true hstarted) (.inr rfl)⟩

end TopicStream.Engine
