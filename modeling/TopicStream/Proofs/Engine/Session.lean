import TopicStream.Proofs.Engine.Log
import TopicStream.Proofs.Engine.Run
import TopicStream.Proofs.Engine.Slot

/-!
# The session belongs to the worker in the slot

A ready session is the one of the last greeting that the worker in the slot has read from the stream
that it opened last (`Core.SessionInv`). The flag that waiting calls look at says whether the
session is ready.

## Main results

* `sessionInv_of_reachable`: the invariant of session, flag and connection;
* `worker_slot_coherent`: all that session, flag, connection, epochs and slot have to do with each
  other.
-/

namespace TopicStream.Engine

/-! ### The invariant -/

/-- Whether a worker in a phase may be the one of a ready session. A crash resets nothing. -/
def Worker.Phase.mayHoldSession : Worker.Phase → Bool
  | .reading _ | .greeting .. | .crashed => true
  | _ => false

namespace Core

/-- Session, flag and connection are those of the worker in the slot. -/
structure SessionInv (c : Core) : Prop where
  /-- The flag says whether the session is ready. -/
  ready : c.ready = c.session.ready
  /-- A session that is not ready has no client id. -/
  clientId : c.session.ready = false → c.session.clientId = ""
  /-- A worker reads the stream that it has opened last. -/
  current : ∀ (i : Nat) (k : Worker) (body : Body), c.workers[i]? = some k →
    k.phase.body? = some body → lastStream? i c.log = some body.serial
  /-- While the worker in the slot reads a stream, the connection is streaming. -/
  streaming : ∀ (i : Nat) (k : Worker) (body : Body), c.slot = some i →
    c.workers[i]? = some k → k.phase.body? = some body → c.connection = .streaming
  /-- A ready session is that of the last greeting read by the worker in the slot. -/
  session : c.session.ready = true → ∃ w k serial, c.slot = some w ∧ c.workers[w]? = some k ∧
    k.phase.mayHoldSession = true ∧ c.connection = .streaming ∧
    lastStream? w c.log = some serial ∧ lastGreeting? w serial c.log = some c.session.clientId

variable {c : Core}

theorem body?_of_setPhase {w i : Nat} {phase : Worker.Phase} {k' : Worker}
    (hslot : c.slot = some w) (hbody : phase.body? = none) (hs : c.slot = some i)
    (hk' : (c.setPhase w phase).workers[i]? = some k') : k'.phase.body? = none := by
  cases hslot.symm.trans hs
  rcases getElem?_of_setPhase hk' with ⟨-, hp, -⟩ | ⟨hne, -⟩
  · rw [hp]
    exact hbody
  · exact absurd rfl hne

/-- Workers read the streams that they have opened last, after one of them has been put into a
phase in which it does. -/
theorem SessionInv.current_setPhase (h : c.SessionInv) {w : Nat} {phase : Worker.Phase}
    {more : List Event} (hmore : ∀ i, i ≠ w → ∀ event ∈ more, event.openedBy? i = none)
    (hphase : ∀ body, phase.body? = some body → lastStream? w (c.log ++ more) = some body.serial)
    {i : Nat} {k' : Worker} {body : Body} (hk' : (c.setPhase w phase).workers[i]? = some k')
    (hbody : k'.phase.body? = some body) : lastStream? i (c.log ++ more) = some body.serial := by
  rcases getElem?_of_setPhase hk' with ⟨rfl, hp, -⟩ | ⟨hne, hold⟩
  · exact hphase body (by rw [← hp]; exact hbody)
  · rw [lastStream?_append (hmore i hne.symm)]
    exact h.current i k' body hold hbody

/-- The worker in the slot goes on with its stream, or crashes, and reads no greeting. -/
theorem SessionInv.goOn (h : c.SessionInv) {w : Nat} {k : Worker} (hslot : c.slot = some w)
    (hk : c.workers[w]? = some k) {phase : Worker.Phase} (hmay : phase.mayHoldSession = true)
    (hbody : ∀ body, phase.body? = some body →
      ∃ body', k.phase.body? = some body' ∧ body.serial = body'.serial)
    {more : List Event} (hopened : ∀ i, ∀ event ∈ more, event.openedBy? i = none)
    (hread : ∀ serial, ∀ record ∈ recordsRead w serial more, record.handshake? = none) :
    SessionInv { c.setPhase w phase with log := c.log ++ more } where
  ready := h.ready
  clientId := h.clientId
  current i k' body hk' hb := by
    refine h.current_setPhase (fun i _ => hopened i) (fun body hb => ?_) hk' hb
    obtain ⟨body', hb', hserial⟩ := hbody body hb
    rw [lastStream?_append (hopened w), hserial]
    exact h.current w k body' hk hb'
  streaming i k' body hs hk' hb := by
    cases hslot.symm.trans hs
    rcases getElem?_of_setPhase hk' with ⟨-, hp, -⟩ | ⟨hne, -⟩
    · obtain ⟨body', hb', -⟩ := hbody body (by rw [← hp]; exact hb)
      exact h.streaming w k body' hslot hk hb'
    · exact absurd rfl hne
  session hready := by
    obtain ⟨w', k', serial, hs, -, -, hconn, hstream, hgreeting⟩ := h.session hready
    cases hslot.symm.trans hs
    refine ⟨w, { k with phase }, serial, hslot, ?_, hmay, hconn, ?_, ?_⟩
    · exact getElem?_setPhase_self hk phase
    · exact (lastStream?_append (hopened w)).trans hstream
    · exact (lastGreeting?_append (hread serial)).trans hgreeting

/-- The worker in the slot reads a greeting. -/
theorem SessionInv.greet (h : c.SessionInv) {w : Nat} {k : Worker} (hslot : c.slot = some w)
    (hk : c.workers[w]? = some k) {body : Body} (hphase : k.phase = .reading body)
    {record : TopicStream.Event.Record} {clientId : String}
    (hgreeting : record.handshake? = some clientId) {phase : Worker.Phase}
    (hmay : phase.mayHoldSession = true)
    (hbody : ∀ body', phase.body? = some body' → body'.serial = body.serial)
    {more : List Event} (hopened : ∀ i, ∀ event ∈ more, event.openedBy? i = none)
    (hread : ∀ serial, ∀ event ∈ more, event.readBy? w serial = none) :
    SessionInv
      { c.setPhase w phase with
        session := ⟨clientId, true⟩
        ready := true
        log := c.log ++ .read w body.serial record :: more } := by
  have hold : k.phase.body? = some body := by rw [hphase]; rfl
  have hnone : ∀ i, ∀ event ∈ Event.read w body.serial record :: more,
      event.openedBy? i = none := by
    intro i event hevent
    rcases List.mem_cons.1 hevent with rfl | hmem
    · rfl
    · exact hopened i event hmem
  constructor
  case ready => rfl
  case clientId =>
    intro hnot
    cases hnot
  case current =>
    intro i k' body' hk' hb
    refine h.current_setPhase (fun i _ => hnone i) (fun body' hb => ?_) hk' hb
    rw [lastStream?_append (hnone w), hbody body' hb]
    exact h.current w k body hk hold
  case streaming =>
    intro i k' body' hs _ _
    exact h.streaming w k body hslot hk hold
  case session =>
    intro _
    refine ⟨w, { k with phase }, body.serial, hslot, ?_, hmay, ?_, ?_, ?_⟩
    · exact getElem?_setPhase_self hk phase
    · exact h.streaming w k body hslot hk hold
    · exact (lastStream?_append (hnone w)).trans (h.current w k body hk hold)
    · exact lastGreeting?_read hgreeting (hread body.serial)

/-- A change of the phases that leaves the streams with their workers keeps the invariant. -/
theorem SessionInv.of_workers (h : c.SessionInv) {workers : List Worker} {more : List Event}
    (hlength : workers.length = c.workers.length)
    (hworkers : ∀ (i : Nat) (k' : Worker), workers[i]? = some k' →
      ∃ k, c.workers[i]? = some k ∧
        (k.phase.mayHoldSession = true → k'.phase.mayHoldSession = true) ∧
        ∀ body, k'.phase.body? = some body →
          ∃ body', k.phase.body? = some body' ∧ body.serial = body'.serial)
    (hopened : ∀ i, ∀ event ∈ more, event.openedBy? i = none)
    (hread : ∀ i serial, ∀ event ∈ more, event.readBy? i serial = none) :
    SessionInv { c with workers, log := c.log ++ more } where
  ready := h.ready
  clientId := h.clientId
  current i k' body hk' hb := by
    obtain ⟨k, hk, -, hbody⟩ := hworkers i k' hk'
    obtain ⟨body', hb', hserial⟩ := hbody body hb
    rw [lastStream?_append (hopened i), hserial]
    exact h.current i k body' hk hb'
  streaming i k' body hs hk' hb := by
    obtain ⟨k, hk, -, hbody⟩ := hworkers i k' hk'
    obtain ⟨body', hb', -⟩ := hbody body hb
    exact h.streaming i k body' hs hk hb'
  session hready := by
    obtain ⟨w, k, serial, hs, hk, hmay, hconn, hstream, hgreeting⟩ := h.session hready
    have hlt : w < workers.length := by
      rw [hlength]
      exact (List.getElem?_eq_some_iff.1 hk).1
    obtain ⟨k₀, hk₀, hmay', -⟩ := hworkers w workers[w] (List.getElem?_eq_getElem hlt)
    cases hk.symm.trans hk₀
    refine ⟨w, workers[w], serial, hs, List.getElem?_eq_getElem hlt, hmay' hmay, hconn, ?_, ?_⟩
    · exact (lastStream?_append (hopened w)).trans hstream
    · refine (lastGreeting?_append fun record hrecord => ?_).trans hgreeting
      rw [recordsRead_eq_nil (hread w serial)] at hrecord
      cases hrecord

/-- What a step of a caller does keeps the invariant: it leaves the session as it is or drops it
with its worker. -/
theorem SessionInv.callerMove {c' : Core} (h : c.SessionInv) (hmove : CallerMove c c') :
    c'.SessionInv := by
  cases hmove with
  | keep => exact h
  | start ended =>
    -- the new worker reads no stream
    have hold : ∀ (i : Nat) (k : Worker) (body : Body), c.start.workers[i]? = some k →
        k.phase.body? = some body → c.workers[i]? = some k := by
      intro i k body hk hb
      rw [start, List.getElem?_append] at hk
      split at hk
      · exact hk
      · rw [List.mem_singleton.1 (List.mem_of_getElem? hk)] at hb
        cases hb
    constructor
    case ready => rfl
    case clientId => exact fun _ => rfl
    case current =>
      intro i k body hk hb
      exact h.current i k body (hold i k body hk hb) hb
    case streaming =>
      intro i k body hs hk hb
      cases hs
      exact absurd (List.getElem?_eq_some_iff.1 (hold _ k body hk hb)).1 (Nat.lt_irrefl _)
    case session =>
      intro hready
      cases hready
  | retire occupied =>
    constructor
    case ready => rfl
    case clientId => exact fun _ => rfl
    case current =>
      intro i k body hk hb
      rw [retire, List.getElem?_modify] at hk
      obtain ⟨k₀, hk₀, rfl⟩ := Option.map_eq_some_iff.1 hk
      refine h.current i k₀ body hk₀ ?_
      rw [← hb]
      split <;> rfl
    case streaming =>
      intro i k body hs _ _
      cases hs
    case session =>
      intro hready
      cases hready
  | idle vacant =>
    constructor
    case ready => exact h.ready
    case clientId => exact h.clientId
    case current => exact h.current
    case streaming =>
      intro i k body hs _ _
      cases vacant.symm.trans hs
    case session =>
      intro hready
      obtain ⟨w, -, -, hs, -⟩ := h.session hready
      cases vacant.symm.trans hs

theorem mayHoldSession_withAnswer (answer : Answer) (phase : Worker.Phase) :
    (phase.withAnswer answer).mayHoldSession = phase.mayHoldSession := by
  cases phase <;> rfl

theorem mayHoldSession_mapBody (f : Body → Body) (phase : Worker.Phase) :
    (phase.mapBody f).mayHoldSession = phase.mayHoldSession := by
  cases phase <;> rfl

/-- An item for a stream, or its end, keeps the invariant. -/
theorem SessionInv.feed (h : c.SessionInv) {serial : Nat} {f : Body → Body}
    (hf : ∀ body, (f body).serial = body.serial) {event : Event}
    (hopened : ∀ i, event.openedBy? i = none) (hread : ∀ i n, event.readBy? i n = none) :
    SessionInv
      { c with workers := Core.feed c.workers serial f, log := c.log ++ [event] } := by
  refine h.of_workers (List.length_map _) (fun i k' hk' => ?_) (fun i => ?_) (fun i n => ?_)
  · obtain ⟨k, hk, ⟨-, rfl⟩ | ⟨-, rfl⟩⟩ := getElem?_of_feed hk'
    · refine ⟨k, hk, (mayHoldSession_mapBody f k.phase).trans, fun body hb => ?_⟩
      obtain ⟨body', hb', rfl⟩ := Option.map_eq_some_iff.1 (body?_mapBody f k.phase ▸ hb)
      exact ⟨body', hb', hf body'⟩
    · exact ⟨k', hk, id, fun body hb => ⟨body, hb, rfl⟩⟩
  · simpa using hopened i
  · simpa using hread i n

theorem SessionInv.supply {c' : Core} (h : c.SessionInv) (hsupply : Supply c c') :
    c'.SessionInv := by
  cases hsupply with
  | answer w answer =>
    refine h.of_workers (List.length_modify _ _ _) (fun i k' hk' => ?_) (fun i => ?_)
      (fun i n => ?_)
    · rw [List.getElem?_modify] at hk'
      obtain ⟨k, hk, rfl⟩ := Option.map_eq_some_iff.1 hk'
      refine ⟨k, hk, ?_⟩
      split
      · refine ⟨fun hmay => (mayHoldSession_withAnswer answer k.phase).trans hmay, ?_⟩
        exact fun body hb => ⟨body, body?_withAnswer answer k.phase ▸ hb, rfl⟩
      · exact ⟨id, fun body hb => ⟨body, hb, rfl⟩⟩
    · simp [Event.openedBy?]
    · simp [Event.readBy?]
  | arrive serial item isRead =>
    refine h.feed (fun _ => ?_) (fun _ => ?_) (fun _ _ => ?_) <;> rfl
  | finish serial isRead =>
    refine h.feed (fun _ => ?_) (fun _ => ?_) (fun _ _ => ?_) <;> rfl

/-- A worker that neither reads nor has crashed holds no session. -/
theorem SessionInv.not_ready (h : c.SessionInv) {w : Nat} {k : Worker} (hslot : c.slot = some w)
    (hk : c.workers[w]? = some k) (hmay : k.phase.mayHoldSession = false) :
    c.session.ready = false := by
  by_contra hready
  obtain ⟨w', k', -, hs, hk', hmay', -⟩ := h.session (by simpa using hready)
  cases hslot.symm.trans hs
  cases hk.symm.trans hk'
  rw [hmay] at hmay'
  cases hmay'

theorem mayHoldSession_eq_false {phase : Worker.Phase} (hbody : phase.body? = none)
    (hover : phase.isOver = false) : phase.mayHoldSession = false := by
  cases phase with
  | reading body => cases hbody
  | greeting clientId body answer => cases hbody
  | crashed => cases hover
  | _ => rfl

theorem SessionInv.workerStep {c' : Core} {w : Nat} {k : Worker} (h : c.SessionInv)
    (hslotInv : c.SlotInv) (hk : c.workers[w]? = some k) (hover : k.phase.isOver = false)
    (hstep : WorkerStep c w k c') : c'.SessionInv := by
  have hslot : k.cancelled = false → c.slot = some w := fun live =>
    (hslotInv.slot_of_live hk hover live).1
  -- only a worker that has been told to end is not the one in the slot
  cases hstep with
  | finish cancelled =>
    -- the worker in the slot is another one
    have hne : ∀ i, c.slot = some i → w ≠ i := fun i hs heq =>
      (hslotInv.epoch_ne_of_cancelled hk cancelled).1 (heq ▸ hs)
    constructor
    case ready => exact h.ready
    case clientId => exact h.clientId
    case current =>
      intro i k' body hk' hb
      rcases getElem?_of_setPhase hk' with ⟨-, hp, -⟩ | ⟨-, hold⟩
      · rw [hp] at hb
        cases hb
      · exact h.current i k' body hold hb
    case streaming =>
      intro i k' body hs hk' hb
      rcases getElem?_of_setPhase hk' with ⟨heq, -⟩ | ⟨-, hold⟩
      · exact absurd heq (hne i hs)
      · exact h.streaming i k' body hs hold hb
    case session =>
      intro hready
      obtain ⟨w', k', serial, hs, hk', hrest⟩ := h.session hready
      refine ⟨w', k', serial, hs, ?_, hrest⟩
      rw [getElem?_setPhase_of_ne (hne w' hs)]
      exact hk'
  | attempt live phase headers =>
    have hready := h.not_ready (hslot live) hk (mayHoldSession_eq_false phase hover)
    constructor
    case ready => exact h.ready
    case clientId => exact h.clientId
    case current =>
      intro i k' body hk' hb
      refine h.current_setPhase (fun j _ => ?_) (fun body hb => ?_) hk' hb
      · simp [Event.openedBy?]
      · cases hb
    case streaming =>
      intro i k' body hs hk' hb
      rw [body?_of_setPhase (hslot live) rfl hs hk'] at hb
      cases hb
    case session =>
      intro hyes
      exact absurd (hready.symm.trans hyes) (by decide)
  | read live phase =>
    have hready := h.not_ready (hslot live) hk (by rw [phase]; rfl)
    constructor
    case ready => exact h.ready
    case clientId => exact h.clientId
    case current =>
      intro i k' body hk' hb
      refine h.current_setPhase (fun j hj => ?_) (fun body hb => ?_) hk' hb
      · simpa [Event.openedBy?] using hj.symm
      · cases hb
        exact lastStream?_opened
    case streaming => exact fun _ _ _ _ _ _ => rfl
    case session =>
      intro hyes
      exact absurd (hready.symm.trans hyes) (by decide)
  | lose live phase resumes told =>
    constructor
    case ready => rfl
    case clientId => exact fun _ => rfl
    case current =>
      intro i k' body hk' hb
      refine h.current_setPhase (fun j _ => ?_) (fun body hb => ?_) hk' hb
      · exact List.forall_mem_map.2 fun _ _ => rfl
      · cases hb
    case streaming =>
      intro i k' body hs hk' hb
      rw [body?_of_setPhase (hslot live) rfl hs hk'] at hb
      cases hb
    case session =>
      intro hyes
      cases hyes
  | crash live phase =>
    have hafter : SessionInv { c.setPhase w .crashed with log := c.log ++ [] } :=
      h.goOn (hslot live) hk rfl (fun body hb => by cases hb) (by simp) (by simp [recordsRead])
    rwa [List.append_nil] at hafter
  | @take live body phase after next =>
    have hafter : SessionInv
        { c.setPhase w (.reading { body with records := after }) with log := c.log ++ [] } :=
      h.goOn (hslot live) hk rfl (fun body' hb => ⟨body, by rw [phase]; rfl, by cases hb; rfl⟩)
        (by simp) (by simp [recordsRead])
    rwa [List.append_nil] at hafter
  | @deliver live body phase record after next plain calls =>
    refine h.goOn (hslot live) hk rfl (fun body' hb => ⟨body, by rw [phase]; rfl, by cases hb; rfl⟩)
      (fun i => ?_) (fun serial record' hrecord => ?_)
    · exact List.forall_mem_cons.2 ⟨rfl, List.forall_mem_map.2 fun _ _ => rfl⟩
    · -- the record is the only one read, and no greeting
      obtain ⟨event, hevent, hread⟩ := List.mem_filterMap.1 hrecord
      rcases List.mem_cons.1 hevent with rfl | hcall
      · rw [Event.readBy?] at hread
        split at hread
        · cases hread
          exact plain
        · cases hread
      · obtain ⟨t, -, rfl⟩ := List.mem_map.1 hcall
        cases hread
  | @announce live body phase record after next clientId greeting topics =>
    exact h.greet (hslot live) hk phase greeting rfl (fun body' hb => by cases hb; rfl)
      (by simp [Event.openedBy?]) (by simp [Event.readBy?])
  | @establish live body phase record after next clientId greeting told =>
    refine h.greet (hslot live) hk phase greeting rfl (fun body' hb => by cases hb; rfl)
      (fun i => ?_) (fun serial => ?_)
    · exact List.forall_mem_map.2 fun _ _ => rfl
    · exact List.forall_mem_map.2 fun _ _ => rfl
  | @greet live clientId body answer phase told =>
    refine h.goOn (hslot live) hk rfl (fun body' hb => ⟨body, by rw [phase]; rfl, by cases hb; rfl⟩)
      (fun i => ?_) (fun serial record hrecord => ?_)
    · exact List.forall_mem_map.2 fun _ _ => rfl
    · rw [recordsRead_eq_nil (List.forall_mem_map.2 fun _ _ => rfl)] at hrecord
      cases hrecord

end Core

/-! ### Reachable states -/

/-- A step keeps session, flag and connection with the worker in the slot. -/
theorem sessionInv_step {e e' : Engine} {action : Action} (hslot : e.core.SlotInv)
    (hinv : e.core.SessionInv) (h : e.step action = some e') : e'.core.SessionInv := by
  rcases coreStep_of_step hslot h with hmove | hsupply | ⟨w, k, hk, hover, hstep⟩
  · exact hinv.callerMove hmove
  · exact hinv.supply hsupply
  · exact hinv.workerStep hslot hk hover hstep

/-- In every reachable state session, flag and connection are those of the worker in the slot. -/
theorem sessionInv_of_reachable {settings : Settings} {credential : Option String} {e : Engine}
    (he : Reachable settings credential e) : e.core.SessionInv := by
  induction he with
  | initial =>
    constructor
    case ready => rfl
    case clientId => exact fun _ => rfl
    case current =>
      intro i k body hk
      cases hk
    case streaming =>
      intro i k body hs
      cases hs
    case session =>
      intro hready
      cases hready
  | step action before happens ih => exact sessionInv_step (slotInv_of_reachable before) ih happens

/-- The session of the invariant, told from the log of the engine. -/
theorem exists_greeting_of_ready {e : Engine} (h : e.core.SessionInv)
    (hready : e.session.ready = true) :
    ∃ w k serial, e.slot = some w ∧ e.workers[w]? = some k ∧ k.phase.mayHoldSession = true ∧
      lastStream? w e.events = some serial ∧
      lastGreeting? w serial e.events = some e.session.clientId := by
  obtain ⟨w, k, serial, hslot, hk, hmay, -, hstream, hgreeting⟩ := h.session hready
  refine ⟨w, k, serial, hslot, hk, hmay, ?_, ?_⟩
  · rw [← lastStream?_core]
    exact hstream
  · rw [lastGreeting?, ← recordsRead_core]
    exact hgreeting

/-- In every reachable state the flag says whether the session is ready, and a session that is not
ready has no client id. The workers have epochs of their own, up to that of the engine; the worker
in the slot is the one of the current epoch and the only one that has neither ended nor been told
to; with an empty slot all workers are behind. A ready session has the client id of the last
greeting that the worker in the slot has read from the stream that it opened last, and the
connection is streaming. -/
theorem worker_slot_coherent {settings : Settings} {credential : Option String} {e : Engine}
    (he : Reachable settings credential e) :
    e.ready = e.session.ready ∧
    (e.session.ready = false → e.session.clientId = "") ∧
    (e.workers.Pairwise fun k k' => k.epoch ≠ k'.epoch) ∧
    (∀ k ∈ e.workers, k.epoch ≤ e.epoch) ∧
    (∀ w, e.slot = some w →
      (∃ k, e.workers[w]? = some k ∧ k.epoch = e.epoch ∧ k.cancelled = false) ∧
      ∀ (i : Nat) (k : Worker), e.workers[i]? = some k → i ≠ w →
        k.cancelled = true ∨ k.phase.isOver = true) ∧
    (e.slot = none → ∀ k ∈ e.workers, k.epoch < e.epoch) ∧
    (e.session.ready = true → ∃ w k serial,
      e.slot = some w ∧ e.connection = .streaming ∧ e.workers[w]? = some k ∧
      (∀ body, k.phase.body? = some body → body.serial = serial) ∧
      lastStream? w e.events = some serial ∧
      lastGreeting? w serial e.events = some e.session.clientId) := by
  have hslot := slotInv_of_reachable he
  have hsession := sessionInv_of_reachable he
  refine ⟨hsession.ready, hsession.clientId, ?_, fun k hk => ?_, fun w hw => ⟨?_, ?_⟩,
    fun hs k hk => ?_, fun hready => ?_⟩
  · exact (List.pairwise_map.1 hslot.ascending).imp Nat.ne_of_lt
  · exact hslot.epoch_le k.epoch (List.mem_map_of_mem hk)
  · exact hslot.slot_some w hw
  · intro i k hk hne
    refine hslot.others i k hk fun hi => hne ?_
    exact Option.some.inj (hi.symm.trans hw)
  · exact hslot.slot_none hs k.epoch (List.mem_map_of_mem hk)
  · obtain ⟨w, k, serial, hs, hk, -, hconn, hstream, hgreeting⟩ := hsession.session hready
    refine ⟨w, k, serial, hs, hconn, hk, fun body hb => ?_, ?_, ?_⟩
    · have hcurrent := hsession.current w k body hk hb
      exact Option.some.inj (hcurrent.symm.trans hstream)
    · rw [← lastStream?_core]
      exact hstream
    · rw [lastGreeting?, ← recordsRead_core]
      exact hgreeting

/-- A subscription whose worker reads a greeting and crashes while it announces the topic. -/
def crashedGreeting : List Action :=
  [.start (.subscribe "news" .none (.sample "reader" false))] ++
    openingActions 0 0 (greetingBytes "c1") ++
    [.resume (.worker 0) true, .answer (.worker 0) .crash, .resume (.worker 0) true]

/-- A crash resets nothing: the session is still that of the greeting, and its worker is still in
the slot. -/
theorem worker_slot_coherent_crashed :
    ∃ e, (Engine.initial .sample none).run crashedGreeting = some e ∧
      e.isOver 0 = true ∧ e.session = ⟨"c1", true⟩ ∧ e.ready = e.session.ready ∧
      ∃ w serial, e.slot = some w ∧ e.connection = .streaming ∧
        lastGreeting? w serial e.events = some e.session.clientId := by
  obtain ⟨e, hrun, hend⟩ := exists_run (.initial .sample none) crashedGreeting
    (fun e => e.isOver 0 && e.session = ⟨"c1", true⟩) (by decide +kernel)
  obtain ⟨hover, hsession⟩ : e.isOver 0 = true ∧ e.session = ⟨"c1", true⟩ := by simpa using hend
  have hreach := Reachable.initial.run hrun
  obtain ⟨hready, -, -, -, -, -, hgreeted⟩ := worker_slot_coherent hreach
  obtain ⟨w, -, serial, hslot, hconn, -, -, -, hgreeting⟩ := hgreeted (by rw [hsession])
  exact ⟨e, hrun, hover, hsession, hready, w, serial, hslot, hconn, hgreeting⟩

end TopicStream.Engine
