import Mathlib.Tactic.ByContra
import TopicStream.Proofs.Engine.Core

/-!
# The slot of the current worker

Every worker has an epoch of its own, and the epoch of the engine is that of the worker in the slot.
So of the workers that have not ended only the one in the slot has not been told to end
(`SlotInv.slot_of_live`), and what a worker says that has been told to end is ignored
(`SlotInv.epoch_ne_of_cancelled`). What is left of the steps of workers is `WorkerStep`: the step of
the worker in the slot, or the end of another one.
-/

namespace TopicStream.Engine

open Subscription

namespace Core

/-- The epochs of the workers ascend up to that of the engine, which is the epoch of the worker in
the slot; all other workers have ended or have been told to. -/
structure SlotInv (c : Core) : Prop where
  /-- Later workers have later epochs. -/
  ascending : (c.workers.map (·.epoch)).Pairwise (· < ·)
  /-- No worker is ahead of the engine. -/
  epoch_le : ∀ n ∈ c.workers.map (·.epoch), n ≤ c.epoch
  /-- The worker in the slot is that of the current epoch and has not been told to end. -/
  slot_some : ∀ w, c.slot = some w →
    ∃ k, c.workers[w]? = some k ∧ k.epoch = c.epoch ∧ k.cancelled = false
  /-- Without a worker in the slot all workers are behind the engine. -/
  slot_none : c.slot = none → ∀ n ∈ c.workers.map (·.epoch), n < c.epoch
  /-- All other workers have ended or have been told to. -/
  others : ∀ (i : Nat) (k : Worker), c.workers[i]? = some k → c.slot ≠ some i →
    k.cancelled = true ∨ k.phase.isOver = true

variable {c : Core}

/-! ### What the epochs tell -/

/-- A worker that has neither ended nor been told to is the one in the slot. -/
theorem SlotInv.slot_of_live (h : c.SlotInv) {w : Nat} {k : Worker} (hk : c.workers[w]? = some k)
    (hover : k.phase.isOver = false) (hlive : k.cancelled = false) :
    c.slot = some w ∧ k.epoch = c.epoch := by
  -- all others have ended or have been told to
  have hslot : c.slot = some w := by
    by_contra hne
    rcases h.others w k hk hne with hcancelled | hended
    · rw [hlive] at hcancelled
      cases hcancelled
    · rw [hover] at hended
      cases hended
  obtain ⟨k', hk', hepoch, -⟩ := h.slot_some w hslot
  rw [hk] at hk'
  cases hk'
  exact ⟨hslot, hepoch⟩

/-- Two workers of one epoch are the same. -/
theorem SlotInv.index_unique (h : c.SlotInv) {i j : Nat} {k k' : Worker}
    (hi : c.workers[i]? = some k) (hj : c.workers[j]? = some k') (heq : k.epoch = k'.epoch) :
    i = j := by
  obtain ⟨hil, rfl⟩ := List.getElem?_eq_some_iff.1 hi
  obtain ⟨hjl, rfl⟩ := List.getElem?_eq_some_iff.1 hj
  have hlt := List.pairwise_iff_getElem.1 h.ascending
  simp only [List.length_map, List.getElem_map] at hlt
  -- the epochs ascend strictly with the place
  rcases Nat.lt_trichotomy i j with hij | hij | hij
  · have := hlt i j hil hjl hij
    omega
  · exact hij
  · have := hlt j i hjl hil hij
    omega

/-- A worker that has been told to end is behind the engine and not in the slot. -/
theorem SlotInv.epoch_ne_of_cancelled (h : c.SlotInv) {w : Nat} {k : Worker}
    (hk : c.workers[w]? = some k) (hcancelled : k.cancelled = true) :
    c.slot ≠ some w ∧ k.epoch ≠ c.epoch := by
  have hslot : c.slot ≠ some w := by
    intro hslot
    obtain ⟨k', hk', -, hlive⟩ := h.slot_some w hslot
    rw [hk] at hk'
    cases hk'
    rw [hcancelled] at hlive
    cases hlive
  refine ⟨hslot, fun hepoch => ?_⟩
  -- the current epoch is that of the worker in the slot, if there is one, and else of none
  cases hs : c.slot with
  | none =>
    have hlt := h.slot_none hs k.epoch (List.mem_map_of_mem (List.mem_of_getElem? hk))
    omega
  | some w' =>
    obtain ⟨k', hk', hepoch', -⟩ := h.slot_some w' hs
    have hw := h.index_unique hk hk' (hepoch.trans hepoch'.symm)
    exact hslot (hs.trans (by rw [hw]))

/-! ### Preservation -/

/-- A change of the phases that ends workers at most keeps the slot in order. -/
theorem SlotInv.of_workers {c' : Core} (h : c.SlotInv) (hslot : c'.slot = c.slot)
    (hepoch : c'.epoch = c.epoch)
    (hepochs : c'.workers.map (·.epoch) = c.workers.map (·.epoch))
    (hworkers : ∀ (i : Nat) (k' : Worker), c'.workers[i]? = some k' →
      ∃ k, c.workers[i]? = some k ∧ k'.cancelled = k.cancelled ∧
        (k.phase.isOver = true → k'.phase.isOver = true)) :
    c'.SlotInv where
  ascending := by
    rw [hepochs]
    exact h.ascending
  epoch_le := by
    rw [hepochs, hepoch]
    exact h.epoch_le
  slot_some w hw := by
    rw [hslot] at hw
    obtain ⟨k, hk, hke, hkc⟩ := h.slot_some w hw
    have hlen : c'.workers.length = c.workers.length := by
      simpa using congrArg List.length hepochs
    have hlt : w < c'.workers.length := by
      rw [hlen]
      exact (List.getElem?_eq_some_iff.1 hk).1
    obtain ⟨k₀, hk₀, hcancelled, -⟩ := hworkers w c'.workers[w] (List.getElem?_eq_getElem hlt)
    rw [hk] at hk₀
    cases hk₀
    refine ⟨c'.workers[w], List.getElem?_eq_getElem hlt, ?_, hcancelled.trans hkc⟩
    have hmap : (c'.workers.map (·.epoch))[w]? = (c.workers.map (·.epoch))[w]? := by rw [hepochs]
    rw [List.getElem?_map, List.getElem?_map, hk, List.getElem?_eq_getElem hlt] at hmap
    rw [hepoch, ← hke]
    exact Option.some.inj hmap
  slot_none hs := by
    rw [hepochs, hepoch]
    exact h.slot_none (hslot.symm.trans hs)
  others i k' hk' hne := by
    obtain ⟨k, hk, hcancelled, hover⟩ := hworkers i k' hk'
    rw [hslot] at hne
    rcases h.others i k hk hne with hc | ho
    · exact .inl (hcancelled.trans hc)
    · exact .inr (hover ho)

/-- Putting a worker that has not ended into another phase keeps the slot in order. -/
theorem SlotInv.modify_phase {c' : Core} (h : c.SlotInv) (hslot : c'.slot = c.slot)
    (hepoch : c'.epoch = c.epoch) {w : Nat} {f : Worker.Phase → Worker.Phase}
    (hf : ∀ k, c.workers[w]? = some k → k.phase.isOver = true → (f k.phase).isOver = true)
    (hworkers : c'.workers = c.workers.modify w fun k => { k with phase := f k.phase }) :
    c'.SlotInv := by
  refine h.of_workers hslot hepoch ?_ ?_
  · rw [hworkers]
    apply List.ext_getElem?
    intro i
    simp only [List.getElem?_map, List.getElem?_modify]
    cases c.workers[i]? <;> by_cases hw : w = i <;> simp [hw]
  · intro i k' hk'
    rw [hworkers, List.getElem?_modify] at hk'
    by_cases hw : w = i
    · subst hw
      simp only [if_true, Option.map_eq_map, Option.map_eq_some_iff] at hk'
      obtain ⟨k, hk, rfl⟩ := hk'
      exact ⟨k, hk, rfl, hf k hk⟩
    · simp only [if_neg hw, id_map'] at hk'
      exact ⟨k', by simpa using hk', rfl, id⟩

/-- What a step of a caller does keeps the slot in order. -/
theorem SlotInv.callerMove {c' : Core} (h : c.SlotInv) (hmove : CallerMove c c') : c'.SlotInv := by
  cases hmove with
  | keep => exact h
  | start ended =>
    have hmap : c.start.workers.map (·.epoch) = c.workers.map (·.epoch) ++ [c.epoch + 1] := by
      simp [start]
    constructor
    case ascending =>
      rw [hmap, List.pairwise_append]
      refine ⟨h.ascending, List.pairwise_singleton _ _, fun n hn m hm => ?_⟩
      rw [List.mem_singleton.1 hm]
      exact Nat.lt_succ_of_le (h.epoch_le n hn)
    case epoch_le =>
      intro n hn
      rw [hmap, List.mem_append, List.mem_singleton] at hn
      rcases hn with hn | rfl
      · exact Nat.le_succ_of_le (h.epoch_le n hn)
      · exact Nat.le_refl _
    case slot_some =>
      intro w hw
      cases hw
      exact ⟨⟨c.epoch + 1, false, .starting⟩, by simp [start], rfl, rfl⟩
    case slot_none =>
      intro hs
      cases hs
    case others =>
      intro i k hk hne
      have hi : i ≠ c.workers.length := fun heq => hne (by rw [heq]; rfl)
      have hk' : c.workers[i]? = some k := by
        have hlt := (List.getElem?_eq_some_iff.1 hk).1
        simp only [start, List.length_append, List.length_singleton] at hlt
        rwa [start, List.getElem?_append_left (by omega)] at hk
      -- the worker that was in the slot has ended
      by_cases hslot : c.slot = some i
      · exact .inr (ended i hslot k hk')
      · exact h.others i k hk' hslot
  | @retire w occupied =>
    have hmap : (c.retire w).workers.map (·.epoch) = c.workers.map (·.epoch) := by
      apply List.ext_getElem?
      intro i
      simp only [retire, List.getElem?_map, List.getElem?_modify]
      cases c.workers[i]? <;> by_cases hw : w = i <;> simp [hw]
    constructor
    case ascending =>
      rw [hmap]
      exact h.ascending
    case epoch_le =>
      intro n hn
      rw [hmap] at hn
      exact Nat.le_succ_of_le (h.epoch_le n hn)
    case slot_some =>
      intro w' hw'
      cases hw'
    case slot_none =>
      intro _ n hn
      rw [hmap] at hn
      exact Nat.lt_succ_of_le (h.epoch_le n hn)
    case others =>
      intro i k hk _
      rw [retire, List.getElem?_modify] at hk
      by_cases hw : w = i
      · simp only [if_pos hw, Option.map_eq_map, Option.map_eq_some_iff] at hk
        obtain ⟨k₀, -, rfl⟩ := hk
        exact .inl rfl
      · simp only [if_neg hw, id_map'] at hk
        have hne : c.slot ≠ some i := fun heq => hw (Option.some.inj (occupied.symm.trans heq))
        exact h.others i k (by simpa using hk) hne
  | idle vacant => exact ⟨h.ascending, h.epoch_le, h.slot_some, h.slot_none, h.others⟩

theorem isOver_withAnswer (answer : Answer) {phase : Worker.Phase} (h : phase.isOver = true) :
    (phase.withAnswer answer).isOver = true := by
  cases phase <;> exact h

theorem isOver_mapBody (f : Body → Body) {phase : Worker.Phase} (h : phase.isOver = true) :
    (phase.mapBody f).isOver = true := by
  cases phase <;> exact h

theorem body?_withAnswer (answer : Answer) (phase : Worker.Phase) :
    (phase.withAnswer answer).body? = phase.body? := by
  cases phase <;> rfl

theorem body?_mapBody (f : Body → Body) (phase : Worker.Phase) :
    (phase.mapBody f).body? = phase.body?.map f := by
  cases phase <;> rfl

/-- Something happens to the bodies of the workers that read a stream. -/
def feed (workers : List Worker) (serial : Nat) (f : Body → Body) : List Worker :=
  workers.map fun k => if k.reads serial then { k with phase := k.phase.mapBody f } else k

theorem getElem?_feed {workers : List Worker} {serial i : Nat} {f : Body → Body} {k : Worker}
    (hk : workers[i]? = some k) :
    (feed workers serial f)[i]? =
      some (if k.reads serial then { k with phase := k.phase.mapBody f } else k) := by
  rw [feed, List.getElem?_map, hk]
  rfl

theorem getElem?_of_feed {workers : List Worker} {serial i : Nat} {f : Body → Body} {k' : Worker}
    (hk' : (feed workers serial f)[i]? = some k') :
    ∃ k, workers[i]? = some k ∧
      ((k.reads serial = true ∧ k' = { k with phase := k.phase.mapBody f }) ∨
        (k.reads serial = false ∧ k' = k)) := by
  rw [feed, List.getElem?_map, Option.map_eq_some_iff] at hk'
  obtain ⟨k, hk, rfl⟩ := hk'
  refine ⟨k, hk, ?_⟩
  cases hreads : k.reads serial with
  | true => exact .inl ⟨rfl, rfl⟩
  | false => exact .inr ⟨rfl, rfl⟩

/-- An item for a stream, or its end, keeps the slot in order. -/
theorem SlotInv.feed {c' : Core} (h : c.SlotInv) (hslot : c'.slot = c.slot)
    (hepoch : c'.epoch = c.epoch) {serial : Nat} {f : Body → Body}
    (hworkers : c'.workers = Core.feed c.workers serial f) : c'.SlotInv := by
  refine h.of_workers hslot hepoch ?_ ?_
  · rw [hworkers, Core.feed, List.map_map]
    apply List.map_congr_left
    intro k _
    simp only [Function.comp]
    split <;> rfl
  · intro i k' hk'
    rw [hworkers] at hk'
    obtain ⟨k, hk, ⟨-, rfl⟩ | ⟨-, rfl⟩⟩ := getElem?_of_feed hk'
    · exact ⟨k, hk, rfl, isOver_mapBody f⟩
    · exact ⟨k', hk, rfl, id⟩

theorem SlotInv.supply {c' : Core} (h : c.SlotInv) (hsupply : Supply c c') : c'.SlotInv := by
  cases hsupply with
  | answer w answer =>
    exact h.modify_phase (f := fun phase => phase.withAnswer answer) rfl rfl
      (fun k _ => isOver_withAnswer answer) rfl
  | arrive serial item isRead => exact h.feed rfl rfl rfl
  | finish serial isRead => exact h.feed rfl rfl rfl

/-! ### The steps of the worker in the slot -/

/-- Puts a worker into a phase. -/
def setPhase (c : Core) (w : Nat) (phase : Worker.Phase) : Core :=
  { c with workers := c.workers.modify w fun k => { k with phase } }

@[simp]
theorem getElem?_setPhase_self {w : Nat} {k : Worker} (hk : c.workers[w]? = some k)
    (phase : Worker.Phase) : (c.setPhase w phase).workers[w]? = some { k with phase } := by
  simp [setPhase, hk]

@[simp]
theorem getElem?_setPhase_of_ne {w i : Nat} (hne : w ≠ i) (phase : Worker.Phase) :
    (c.setPhase w phase).workers[i]? = c.workers[i]? := by
  simp [setPhase, hne]

theorem getElem?_of_setPhase {w i : Nat} {phase : Worker.Phase} {k' : Worker}
    (h : (c.setPhase w phase).workers[i]? = some k') :
    (w = i ∧ k'.phase = phase ∧ ∃ k, c.workers[i]? = some k) ∨
      (w ≠ i ∧ c.workers[i]? = some k') := by
  rw [setPhase, List.getElem?_modify] at h
  by_cases hw : w = i
  · simp only [if_pos hw, Option.map_eq_map, Option.map_eq_some_iff] at h
    obtain ⟨k, hk, rfl⟩ := h
    exact .inl ⟨hw, rfl, k, hk⟩
  · simp only [if_neg hw, id_map'] at h
    exact .inr ⟨hw, by simpa using h⟩

/-- What a step of a worker can do to the core. All but the first are steps of the worker in the
slot. -/
inductive WorkerStep (c : Core) (w : Nat) (k : Worker) : Core → Prop
  /-- Ending, as it has been told to. -/
  | finish (cancelled : k.cancelled = true) : WorkerStep c w k (c.setPhase w .finished)
  /-- Asking for a stream. -/
  | attempt (live : k.cancelled = false) (phase : k.phase.body? = none)
      (headers : List (String × String)) :
      WorkerStep c w k
        { c.setPhase w (.opening none) with
          connection := .connecting
          log := c.log ++ [.requested w headers] }
  /-- Beginning to read a stream. -/
  | read (live : k.cancelled = false) (phase : k.phase = .opening (some .success)) :
      WorkerStep c w k
        { c.setPhase w (.reading (.fresh c.streams)) with
          connection := .streaming
          streams := c.streams + 1
          log := c.log ++ [.opened w c.streams] }
  /-- Ending an attempt. -/
  | lose (live : k.cancelled = false)
      (phase : (∃ error, k.phase = .opening (some (.failure error))) ∨
        ∃ body, k.phase = .reading body ∧
          ((∃ error after, body.records.advance = .yields (.error error) after) ∨
            body.records.advance = .starves ∧ body.ended = true))
      (resumes : Nat) (told : List (Observer × List String)) :
      WorkerStep c w k
        { c.setPhase w (.pausing resumes) with
          session := .none
          ready := false
          connection := .reconnecting
          log := c.log ++ told.map fun t => .lost w t.1 t.2 }
  /-- Crashing with the transport. -/
  | crash (live : k.cancelled = false)
      (phase : k.phase = .opening (some .crash) ∨
        ∃ clientId body, k.phase = .greeting clientId body (some .crash)) :
      WorkerStep c w k (c.setPhase w .crashed)
  /-- Taking a chunk. -/
  | take (live : k.cancelled = false) {body : Body} (phase : k.phase = .reading body)
      {after : TopicStream.Event.RecordStream ClientError}
      (next : body.records.advance = .takes after) :
      WorkerStep c w k (c.setPhase w (.reading { body with records := after }))
  /-- Delivering a record. -/
  | deliver (live : k.cancelled = false) {body : Body} (phase : k.phase = .reading body)
      {record : TopicStream.Event.Record} {after : TopicStream.Event.RecordStream ClientError}
      (next : body.records.advance = .yields (.ok record) after)
      (plain : record.handshake? = none) (calls : List (ListenerId × Listener × Json)) :
      WorkerStep c w k
        { c.setPhase w (.reading { body with records := after }) with
          log := c.log ++ .read w body.serial record ::
            calls.map fun t => .delivered w t.1 t.2.1 t.2.2 }
  /-- Taking a greeting that is announced. -/
  | announce (live : k.cancelled = false) {body : Body} (phase : k.phase = .reading body)
      {record : TopicStream.Event.Record} {after : TopicStream.Event.RecordStream ClientError}
      (next : body.records.advance = .yields (.ok record) after) {clientId : String}
      (greeting : record.handshake? = some clientId) (topics : List String) :
      WorkerStep c w k
        { c.setPhase w (.greeting clientId { body with records := after } none) with
          session := ⟨clientId, true⟩
          ready := true
          log := c.log ++ [.read w body.serial record, .announced (.worker w) clientId topics] }
  /-- Taking a greeting that is not announced. -/
  | establish (live : k.cancelled = false) {body : Body} (phase : k.phase = .reading body)
      {record : TopicStream.Event.Record} {after : TopicStream.Event.RecordStream ClientError}
      (next : body.records.advance = .yields (.ok record) after) {clientId : String}
      (greeting : record.handshake? = some clientId) (told : List Observer) :
      WorkerStep c w k
        { c.setPhase w (.reading { body with records := after }) with
          session := ⟨clientId, true⟩
          ready := true
          log := c.log ++ .read w body.serial record :: told.map fun o => .connected w o clientId }
  /-- Telling the observers of a greeting. -/
  | greet (live : k.cancelled = false) {clientId : String} {body : Body} {answer : Answer}
      (phase : k.phase = .greeting clientId body (some answer)) (told : List Observer) :
      WorkerStep c w k
        { c.setPhase w (.reading body) with
          log := c.log ++ told.map fun o => .connected w o clientId }

/-- A worker that has been told to end does nothing but that. -/
theorem WorkerStep.eq_of_cancelled {c' : Core} {w : Nat} {k : Worker}
    (h : WorkerStep c w k c') (hcancelled : k.cancelled = true) : c' = c.setPhase w .finished := by
  cases h with
  | finish cancelled => rfl
  | attempt live | read live | lose live | crash live | take live | deliver live | announce live
  | establish live | greet live =>
    rw [live] at hcancelled
    cases hcancelled

theorem SlotInv.workerStep {c' : Core} {w : Nat} {k : Worker} (h : c.SlotInv)
    (hk : c.workers[w]? = some k) (hover : k.phase.isOver = false)
    (hstep : WorkerStep c w k c') : c'.SlotInv := by
  have hphase (phase : Worker.Phase) {c' : Core} (hslot : c'.slot = c.slot)
      (hepoch : c'.epoch = c.epoch) (hworkers : c'.workers = (c.setPhase w phase).workers) :
      c'.SlotInv := by
    refine h.modify_phase (f := fun _ => phase) hslot hepoch (fun k' hk' hended => ?_) hworkers
    rw [hk] at hk'
    cases hk'
    rw [hover] at hended
    cases hended
  cases hstep <;> exact hphase _ rfl rfl rfl

end Core

open TopicStream.Engine.Core

/-! ### The core under the steps of workers -/

section Workers

variable {e : Engine} {w : Nat} {epoch : Nat}

/-- A worker that has been told to end does nothing else. -/
theorem core_finishWorker (h : e.epoch ≠ epoch) :
    (e.finishWorker w epoch).core = e.core.setPhase w .finished := by
  simp [finishWorker, resetSession, h, setWorker, core, setPhase]

theorem core_beginAttempt (h : e.epoch = epoch) :
    (e.beginAttempt w epoch).core =
      { e.core.setPhase w (.opening none) with
        connection := .connecting
        log := e.core.log ++
          [.requested w (e.setConnection .connecting epoch).streamHeaders] } := by
  simp [beginAttempt, setConnection, h, setWorker, core, setPhase, note, Event.isCallers]

theorem core_beginReading (h : e.epoch = epoch) :
    (e.beginReading w epoch).core =
      { e.core.setPhase w (.reading (.fresh e.streams)) with
        connection := .streaming
        streams := e.streams + 1
        log := e.core.log ++ [.opened w e.streams] } := by
  simp [beginReading, setConnection, h, setWorker, core, setPhase, note, Event.isCallers]

theorem core_endAttempt (h : e.epoch = epoch) :
    (e.endAttempt w epoch).core =
      { e.core.setPhase w (.pausing (e.now + e.settings.pause)) with
        session := .none
        ready := false
        connection := .reconnecting
        log := e.core.log ++ (e.onDisconnect.map fun o => (o, e.registry.activeTopics)).map
          fun t => .lost w t.1 t.2 } := by
  simp [endAttempt, resetSession, setConnection, h, notifyLost_eq, noteAll, setWorker, core,
    setPhase, Event.isCallers, Session.reset, Function.comp_def]

theorem core_notifyConnected (e : Engine) (w : Nat) (clientId : String) :
    (e.notifyConnected w clientId).core =
      { e.core with
        log := e.core.log ++ e.onConnect.map fun o => .connected w o clientId } := by
  rw [notifyConnected_eq]
  refine core_noteAll e fun event hevent => ?_
  obtain ⟨o, -, rfl⟩ := List.mem_map.1 hevent
  rfl

theorem core_dispatch (e : Engine) (w : Nat) (record : TopicStream.Event.Record) :
    (e.dispatch w record).core =
      { e.core with
        log := e.core.log ++ (e.registry.entries record.event).map fun p =>
          .delivered w p.1 p.2 (record.payload.getD .null) } := by
  rw [dispatch_eq]
  refine core_noteAll e fun event hevent => ?_
  obtain ⟨p, -, rfl⟩ := List.mem_map.1 hevent
  rfl

theorem core_setWorker (e : Engine) (w : Nat) (phase : Worker.Phase) :
    (e.setWorker w phase).core = e.core.setPhase w phase := rfl

theorem core_greeted (e : Engine) (w serial : Nat) (record : TopicStream.Event.Record)
    (clientId : String) :
    (e.greeted w serial record clientId).core =
      { e.core with
        session := ⟨clientId, true⟩
        ready := true
        log := e.core.log ++ [.read w serial record] } := by
  change { (e.note (.read w serial record)).core with
    session := ⟨clientId, true⟩
    ready := true } = _
  rw [core_note _ rfl]

/-- A step of a worker, seen in the core: an older worker can only end. -/
theorem workerStep_of_workerMove {e' : Engine} {k : Worker} (hinv : e.core.SlotInv)
    (hk : e.workers[w]? = some k) (hover : k.phase.isOver = false) (hmove : WorkerMove e w k e') :
    WorkerStep e.core w k e'.core := by
  have hepoch : k.cancelled = false → e.epoch = k.epoch := fun live =>
    (hinv.slot_of_live hk hover live).2.symm
  cases hmove with
  | finish cancelled =>
    have hne : e.epoch ≠ k.epoch := fun heq =>
      (hinv.epoch_ne_of_cancelled hk cancelled).2 heq.symm
    rw [core_finishWorker hne]
    exact .finish cancelled
  | attempt live phase =>
    rw [core_beginAttempt (hepoch live)]
    refine .attempt live ?_ _
    rcases phase with hphase | ⟨resumes, -, hphase⟩ <;> rw [hphase] <;> rfl
  | read live phase =>
    rw [core_beginReading (hepoch live)]
    exact .read live phase
  | lose live phase =>
    rw [core_endAttempt (hepoch live)]
    exact .lose live phase _ _
  | crash live phase => exact .crash live phase
  | take live phase next => exact .take live phase next
  | @deliver live body phase record after next plain =>
    rw [core_setWorker, core_dispatch, core_note _ rfl]
    have hstep := WorkerStep.deliver (c := e.core) (w := w) live phase next plain
      ((e.registry.entries record.event).map fun p => (p.1, p.2, record.payload.getD .null))
    rw [List.map_map] at hstep
    simp only [List.append_assoc, List.singleton_append]
    exact hstep
  | passOver live phase next greeting late => exact absurd (hepoch live) late
  | @announce live body phase record after next clientId greeting current due =>
    rw [core_setWorker, core_note _ rfl, core_greeted]
    simp only [List.append_assoc, List.singleton_append]
    exact .announce live phase next greeting _
  | @establish live body phase record after next clientId greeting current nothing =>
    rw [core_setWorker, core_notifyConnected, core_greeted]
    simp only [List.append_assoc, List.singleton_append]
    exact .establish live phase next greeting e.onConnect
  | greet live phase survives =>
    rw [core_setWorker, core_notifyConnected]
    exact .greet live phase e.onConnect

end Workers

/-- What a step does to the core if the slot is in order. -/
theorem coreStep_of_step {e e' : Engine} {action : Action} (hinv : e.core.SlotInv)
    (h : e.step action = some e') :
    CallerMove e.core e'.core ∨ Supply e.core e'.core ∨
      ∃ w k, e.workers[w]? = some k ∧ k.phase.isOver = false ∧ WorkerStep e.core w k e'.core := by
  rcases step_core h with hmove | hsupply | ⟨w, k, hk, hover, hmove⟩
  · exact .inl hmove
  · exact .inr (.inl hsupply)
  · exact .inr (.inr ⟨w, k, hk, hover, workerStep_of_workerMove hinv hk hover hmove⟩)

theorem slotInv_step {e e' : Engine} {action : Action} (hinv : e.core.SlotInv)
    (h : e.step action = some e') : e'.core.SlotInv := by
  rcases coreStep_of_step hinv h with hmove | hsupply | ⟨w, k, hk, hover, hstep⟩
  · exact hinv.callerMove hmove
  · exact hinv.supply hsupply
  · exact hinv.workerStep hk hover hstep

/-- The slot is in order in every reachable state. -/
theorem slotInv_of_reachable {settings : Settings} {credential : Option String} {e : Engine}
    (he : Reachable settings credential e) : e.core.SlotInv := by
  induction he with
  | initial =>
    constructor
    case ascending =>
      exact .nil
    case epoch_le =>
      intro n hn
      cases hn
    case slot_some =>
      intro w hw
      cases hw
    case slot_none =>
      intro _ n hn
      cases hn
    case others =>
      intro i k hk
      cases hk
  | step action before happens ih => exact slotInv_step ih happens

end TopicStream.Engine
