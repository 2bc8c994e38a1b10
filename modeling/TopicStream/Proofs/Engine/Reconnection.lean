import TopicStream.Proofs.Engine.Attempts
import TopicStream.Proofs.Engine.Session
import TopicStream.Proofs.Engine.Silence

/-!
# Workers reconnect

What concerns a worker in the trace is a sequence of attempts in which all but the last have ended
with a loss, and each begins exactly one pause after the loss before it (`trace_of_worker`).

The invariant is `Stands`: up to now the trace is such a sequence, and the phase of the worker says
how its last attempt stands (`Standing`). Steps of others leave the worker where it is (`Beside`).
What a worker does itself concerns the last attempt or begins a new one.
-/

namespace TopicStream.Engine

open Subscription

/-! ### Steps of others -/

namespace Core

/-- Where a worker stands. One that has not been started is about to make its first attempt. -/
def phaseOf (c : Core) (w : Nat) : Worker.Phase := (c.workers[w]?.map (·.phase)).getD .starting

/-- A step is not about a worker. What arrives may be for its stream, and its session lasts as long
as it stays in the slot. -/
structure Beside (c c' : Core) (w : Nat) : Prop where
  /-- The worker is in the same phase. -/
  phase : ∃ f : Body → Body, (∀ body, (f body).serial = body.serial) ∧
    c'.phaseOf w = (c.phaseOf w).mapBody f
  /-- If it is still in the slot, it has been there with the same session. -/
  session : w < c.workers.length → c'.slot = some w → c.slot = some w ∧ c'.session = c.session

section Beside

variable {c c' : Core} {w : Nat}

theorem phaseOf_eq {k : Worker} (hk : c.workers[w]? = some k) : c.phaseOf w = k.phase := by
  rw [phaseOf, hk]
  rfl

theorem exists_worker_of_phaseOf (h : c.phaseOf w ≠ .starting) :
    ∃ k, c.workers[w]? = some k ∧ k.phase = c.phaseOf w := by
  cases hk : c.workers[w]? with
  | none =>
    rw [phaseOf, hk] at h
    exact absurd rfl h
  | some k => exact ⟨k, rfl, (phaseOf_eq hk).symm⟩

theorem mapBody_id (phase : Worker.Phase) : phase.mapBody id = phase := by
  cases phase <;> rfl

/-- What leaves phases, slot and session alone is not about any worker. -/
theorem Beside.of_eq (hphase : c'.phaseOf w = c.phaseOf w) (hslot : c'.slot = c.slot)
    (hsession : c'.session = c.session) : Beside c c' w where
  phase := ⟨id, fun _ => rfl, hphase.trans (mapBody_id _).symm⟩
  session _ hw := ⟨hslot.symm.trans hw, hsession⟩

theorem CallerMove.beside (h : CallerMove c c') : Beside c c' w := by
  cases h with
  | keep | idle vacant => exact .of_eq rfl rfl rfl
  | start ended =>
    constructor
    · refine ⟨id, fun _ => rfl, Eq.trans ?_ (mapBody_id _).symm⟩
      -- the new worker stands where it stood before it was started
      rcases Nat.lt_trichotomy w c.workers.length with hlt | rfl | hgt
      · rw [phaseOf, Core.start, List.getElem?_append_left hlt, phaseOf]
      · simp [phaseOf, Core.start]
      · rw [phaseOf, phaseOf, List.getElem?_eq_none (Nat.le_of_lt hgt), List.getElem?_eq_none]
        exact (List.length_append ..).trans_le hgt
    · intro hlt hslot
      cases hslot
      exact absurd hlt (Nat.lt_irrefl _)
  | @retire w' occupied =>
    constructor
    · refine ⟨id, fun _ => rfl, Eq.trans ?_ (mapBody_id _).symm⟩
      rw [phaseOf, Core.retire, List.getElem?_modify, phaseOf]
      cases c.workers[w]? with
      | none => rfl
      | some k => by_cases hw : w' = w <;> simp [hw]
    · intro _ hslot
      cases hslot

theorem phaseOf_modify_of_ne {i : Nat} (hne : i ≠ w) (f : Worker → Worker) :
    phaseOf { c with workers := c.workers.modify i f } w = c.phaseOf w := by
  simp [phaseOf, hne]

theorem WorkerStep.beside {i : Nat} {k : Worker} (h : WorkerStep c i k c') (hinv : c.SlotInv)
    (hk : c.workers[i]? = some k) (hover : k.phase.isOver = false) (hne : i ≠ w) :
    Beside c c' w := by
  have hphase : c'.phaseOf w = c.phaseOf w := by
    cases h <;> exact phaseOf_modify_of_ne hne _
  have hslot : c'.slot = c.slot := h.notes.2.2
  refine ⟨⟨id, fun _ => rfl, hphase.trans (mapBody_id _).symm⟩, fun _ hw => ?_⟩
  have hw' : c.slot = some w := hslot.symm.trans hw
  refine ⟨hw', ?_⟩
  -- only the worker in the slot has to do with the session
  have hcancelled : k.cancelled = true := by
    rw [← Bool.not_eq_false]
    intro hlive
    have hi := (hinv.slot_of_live hk hover hlive).1
    exact hne (Option.some.inj (hi.symm.trans hw'))
  cases h with
  | finish => rfl
  | attempt live | read live | lose live | crash live | take live | deliver live | announce live
  | establish live | greet live =>
    rw [live] at hcancelled
    cases hcancelled

/-- What arrives for streams changes no more than their bodies. -/
theorem beside_feed (serial : Nat) {f : Body → Body} (hf : ∀ body, (f body).serial = body.serial)
    (hworkers : c'.workers = feed c.workers serial f) (hslot : c'.slot = c.slot)
    (hsession : c'.session = c.session) : Beside c c' w := by
  have hphase : c'.phaseOf w = c.phaseOf w ∨ c'.phaseOf w = (c.phaseOf w).mapBody f := by
    rw [phaseOf, hworkers, feed, List.getElem?_map, phaseOf]
    cases c.workers[w]? with
    | none => exact .inl rfl
    | some k => by_cases hreads : k.reads serial = true <;> simp [hreads]
  rcases hphase with hkept | hfed
  · exact .of_eq hkept hslot hsession
  · exact ⟨⟨f, hf, hfed⟩, fun _ hw => ⟨hslot.symm.trans hw, hsession⟩⟩

end Beside

end Core

open TopicStream.Engine.Core

/-- What neither lets a worker go on nor hands it an answer is not about the worker. -/
theorem beside_of_step {e e' : Engine} {action : Action} {w : Nat} (hinv : e.core.SlotInv)
    (h : e.step action = some e') (htask : action.task? e ≠ some (.worker w)) :
    Beside e.core e'.core w := by
  cases stepMove_of_step h with
  | start alive request => exact (callerMove_beginCall e request true).beside
  | @closeHandle c key id handle => exact (callerMove_beginCall (e.useHandle c) _ false).beside
  | @worker i k _ present running move =>
    have hne : i ≠ w := fun heq => htask (by rw [heq]; rfl)
    exact (workerStep_of_workerMove hinv present running move).beside hinv present running hne
  | call present move => exact (callerMove_of_callMove e move).beside
  | @answer task awaited answer =>
    cases task with
    | worker i =>
      have hne : i ≠ w := fun heq => htask (by rw [heq]; rfl)
      exact .of_eq (phaseOf_modify_of_ne (c := e.core) hne _) rfl rfl
    | call c => exact .of_eq rfl rfl rfl
  | arrive isOpen item => exact beside_feed _ (f := (·.arrive item)) (fun _ => rfl) rfl rfl rfl
  | finish isOpen => exact beside_feed _ (f := Body.finish) (fun _ => rfl) rfl rfl rfl
  | dropWorker alive free taken =>
    obtain ⟨hslot, hcore⟩ := core_of_takeWorker _ taken
    rw [hcore]
    exact (CallerMove.retire hslot).beside
  | tick | dropClient | setCredential | observeConnect | observeDisconnect =>
    exact .of_eq rfl rfl rfl

/-! ### How the last attempt stands -/

/-- The client id of a greeting that a worker holds until its announcement is answered. -/
def Worker.Phase.held? : Worker.Phase → Option String
  | .greeting clientId _ _ => some clientId
  | _ => none

/-- How an attempt stands that has not ended. -/
inductive Pending (now : Nat) : Worker.Phase → Fate → Prop
  /-- Its request has not been answered. -/
  | asked : Pending now (.opening none) .asked
  /-- Its request has just been answered. -/
  | answered (answer : Answer) : Pending now (.opening (some answer)) (.answered now answer)
  /-- Its stream is read. -/
  | reads (m : Engine) (body : Body) (turns : List Turn) :
      Pending now (.reading body) (.opened m body.serial turns .reads)
  /-- A greeting is held, and its announcement has perhaps just been answered. -/
  | holds (m : Engine) (body : Body) (turns : List Turn) (greeting : Greeting)
      (answer : Option Answer) :
      Pending now (.greeting greeting.clientId body answer)
        (.opened m body.serial turns (.holds greeting (answer.map (now, ·))))

/-- What the phase of a worker says of its attempts. -/
inductive Standing (e : Engine) (w : Nat) : List Attempt → Worker.Phase → Prop
  /-- There are none yet. -/
  | starting : Standing e w [] .starting
  /-- The last one has not ended. -/
  | pending {done : List Attempt} {begun : Engine} {fate : Fate} {phase : Worker.Phase}
      (pending : Pending e.now phase fate) (since : begun.now ≤ e.now)
      (held : ∀ clientId, phase.held? = some clientId → e.slot = some w →
        e.session = ⟨clientId, true⟩) :
      Standing e w (done ++ [⟨begun, fate⟩]) phase
  /-- The last one has ended with a loss, and the pause after it is not over. -/
  | pausing {done : List Attempt} {a : Attempt} {m : Engine} (lost : a.lost? = some m)
      (since : a.begun.now ≤ m.now) (early : e.now ≤ m.now + e.settings.pause) :
      Standing e w (done ++ [a]) (.pausing (m.now + e.settings.pause))
  /-- The worker has ended as it has been given up. -/
  | finished {attempts : List Attempt} (out : e.slot ≠ some w) : Standing e w attempts .finished
  /-- The worker has crashed in an attempt. -/
  | crashed {attempts : List Attempt} (last : ∀ a ∈ attempts.getLast?, a.lost? = none) :
      Standing e w attempts .crashed

/-- All that concerns a worker so far are attempts in which all but the last have ended with a loss,
and each begins one pause after the loss before it. -/
structure Stands (takes : Engine → Engine → Prop) (w : Nat) (e : Engine)
    (attempts : List Attempt) : Prop where
  /-- Nothing else concerns the worker. -/
  trace : e.entriesOf (.worker w) = attempts.flatMap (Attempt.entries w)
  /-- The attempts are in order. -/
  sound : Accounted (Attempt.entries w) (Attempt.Sound takes w) [] attempts
  /-- They follow each other. -/
  chain : attempts.IsChain (Attempt.Precedes e.settings.pause)
  /-- The phase says how the last one stands. -/
  standing : Standing e w attempts (e.core.phaseOf w)

section Standing

variable {takes : Engine → Engine → Prop} {e e' : Engine} {w : Nat} {attempts : List Attempt}

/-- An attempt that has not ended, while no greeting is held. -/
theorem Standing.plain {done : List Attempt} {begun : Engine} {fate : Fate} {phase : Worker.Phase}
    (pending : Pending e.now phase fate) (since : begun.now ≤ e.now) (hheld : phase.held? = none) :
    Standing e w (done ++ [⟨begun, fate⟩]) phase :=
  .pending pending since fun _ heq => absurd (hheld.symm.trans heq) (Option.some_ne_none _).symm

theorem held?_mapBody (f : Body → Body) (phase : Worker.Phase) :
    (phase.mapBody f).held? = phase.held? := by
  cases phase <;> rfl

theorem Pending.mapBody {now : Nat} {phase : Worker.Phase} {fate : Fate}
    (h : Pending now phase fate) {f : Body → Body} (hf : ∀ body, (f body).serial = body.serial) :
    Pending now (phase.mapBody f) fate := by
  cases h with
  | asked => exact .asked
  | answered answer => exact .answered answer
  | reads m body turns =>
    rw [← hf body]
    exact .reads m (f body) turns
  | holds m body turns greeting answer =>
    rw [← hf body]
    exact .holds m (f body) turns greeting answer

/-- A worker in a phase other than that of the beginning has been started. -/
theorem lt_length_of_phaseOf {phase : Worker.Phase} (h : e.core.phaseOf w = phase)
    (hphase : phase ≠ .starting) : w < e.workers.length := by
  obtain ⟨k, hk, -⟩ := exists_worker_of_phaseOf (h ▸ hphase)
  exact (List.getElem?_eq_some_iff.1 hk).1

/-- What others do leaves the worker where it stands, as long as no time passes. -/
theorem Standing.beside (h : Standing e w attempts (e.core.phaseOf w))
    (hbeside : Beside e.core e'.core w) (hnow : e'.now = e.now)
    (hsettings : e'.settings = e.settings) : Standing e' w attempts (e'.core.phaseOf w) := by
  obtain ⟨⟨f, hf, hphase⟩, hsession⟩ := hbeside
  rw [hphase]
  generalize hold : e.core.phaseOf w = phase at h
  cases h with
  | starting => exact .starting
  | pending pending since held =>
    rw [← hnow] at pending since
    -- what arrives for the stream matters neither to the attempt nor to a greeting that is held
    refine .pending (pending.mapBody hf) since fun clientId hheld hslot => ?_
    rw [held?_mapBody] at hheld
    have hstarted : phase ≠ .starting := by
      rintro rfl
      cases hheld
    obtain ⟨hbefore, heq⟩ := hsession (lt_length_of_phaseOf hold hstarted) hslot
    exact heq.trans (held clientId hheld hbefore)
  | pausing lost since early =>
    rw [← hnow, ← hsettings] at early
    rw [← hsettings]
    exact .pausing lost since early
  | finished out =>
    refine .finished fun hslot => out ?_
    exact (hsession (lt_length_of_phaseOf hold nofun) hslot).1
  | crashed last => exact .crashed last

theorem exists_waiting_of_quiescent (hquiet : Quiescent e) {phase : Worker.Phase}
    (hphase : e.core.phaseOf w = phase) (hstarted : phase ≠ .starting)
    (hover : phase.isOver = false) :
    ∃ k, e.workers[w]? = some k ∧ k.phase = phase ∧ e.continueWorker w k.epoch phase = none := by
  subst hphase
  obtain ⟨k, hk, hphase⟩ := exists_worker_of_phaseOf hstarted
  rw [← hphase] at hover ⊢
  exact ⟨k, hk, rfl, continueWorker_of_quiescent hquiet hk hover⟩

/-- A worker sees at once that its stream has failed or ended: no time passes before. -/
theorem not_breaks_of_quiescent (hquiet : Quiescent e) (w serial : Nat) : ¬ e.Breaks w serial := by
  rintro ⟨k, body, hk, hphase, -, hbreaks⟩
  have hnone := continueWorker_of_quiescent hquiet hk (by rw [hphase]; rfl)
  rw [hphase, continueWorker, readOn] at hnone
  rcases hbreaks with ⟨error, after, hadvance⟩ | ⟨hadvance, hended⟩
  · rw [hadvance] at hnone
    cases hnone
  · rw [hadvance] at hnone
    simp [hended] at hnone

/-- Time passes up to the end of a pause at most. -/
theorem Standing.tick (h : Standing e w attempts (e.core.phaseOf w)) (hquiet : Quiescent e)
    {time : Nat} (hlater : e.now < time) (hdue : ∀ deadline ∈ e.deadlines, time ≤ deadline) :
    Standing { e with now := time } w attempts (e.core.phaseOf w) := by
  generalize hold : e.core.phaseOf w = phase at h
  have hworker := exists_waiting_of_quiescent hquiet hold
  cases h with
  | starting => exact .starting
  | pending pending since held =>
    refine .pending ?_ (since.trans (Nat.le_of_lt hlater)) held
    cases pending with
    | asked => exact .asked
    | reads m body turns => exact .reads m body turns
    -- a worker that has an answer can go on
    | answered answer =>
      obtain ⟨k, -, -, hnone⟩ := hworker nofun rfl
      cases answer <;> cases hnone
    | holds m body turns greeting answer =>
      cases answer with
      | none => exact .holds m body turns greeting none
      | some answer =>
        obtain ⟨k, -, -, hnone⟩ := hworker nofun rfl
        cases answer <;> cases hnone
  | @pausing done a m lost since early =>
    -- the end of the pause is a deadline
    obtain ⟨k, hk, hphase, -⟩ := hworker nofun rfl
    refine .pausing lost since (hdue _ ?_)
    refine List.mem_append_left _ (List.mem_filterMap.2 ⟨k, List.mem_of_getElem? hk, ?_⟩)
    rw [hphase]
  | finished out => exact .finished out
  | crashed last => exact .crashed last

/-! ### What the worker does itself -/

/-- A worker that goes on is in the phase that it is put into. -/
theorem phaseOf_of_core {k : Worker} {phase : Worker.Phase} {c' : Core}
    (hk : e.workers[w]? = some k) (hcore : e'.core = c')
    (hworkers : c'.workers = (e.core.setPhase w phase).workers) : e'.core.phaseOf w = phase := by
  have hphase := getElem?_setPhase_self (c := e.core) hk phase
  rw [hcore, phaseOf, hworkers, hphase]
  rfl

theorem losses_endAttempt (e : Engine) (w epoch : Nat) :
    (e.endAttempt w epoch).losses w =
      (e.onDisconnect.map fun o => .lost w o e.registry.activeTopics).map (⟨e.now, ·⟩) := by
  simp only [losses, endAttempt, notifyLost_eq]
  unfold resetSession setConnection
  rw [List.map_map]
  split <;> rfl

theorem asking_beginAttempt (e : Engine) (w epoch : Nat) :
    (e.beginAttempt w epoch).asking w = ⟨e.now, .requested w e.streamHeaders⟩ := by
  unfold beginAttempt setConnection
  split <;> rfl

/-- A worker that loses its stream drops the session. -/
theorem drops_endAttempt {epoch : Nat} (hepoch : e.epoch = epoch) (hslot : e.slot = some w) :
    (e.endAttempt w epoch).Drops w := by
  have hcore := core_endAttempt (w := w) hepoch
  exact ⟨congrArg Core.session hcore, congrArg Core.ready hcore, congrArg Core.connection hcore,
    (congrArg Core.slot hcore).trans hslot⟩

/-- The last attempt of a worker whose request has just been answered. -/
theorem Standing.answered {answer : Answer}
    (h : Standing e w attempts (.opening (some answer))) :
    ∃ done begun, attempts = done ++ [⟨begun, .answered e.now answer⟩] ∧ begun.now ≤ e.now := by
  cases h with
  | pending pending since held =>
    cases pending with
    | answered => exact ⟨_, _, rfl, since⟩

/-- The last attempt of a worker that reads a stream. -/
theorem Standing.reading {body : Body} (h : Standing e w attempts (.reading body)) :
    ∃ done begun m turns, attempts = done ++ [⟨begun, .opened m body.serial turns .reads⟩] ∧
      begun.now ≤ e.now := by
  cases h with
  | pending pending since held =>
    cases pending with
    | reads => exact ⟨_, _, _, _, rfl, since⟩

/-- Nothing is noted, and the attempts stay as they are. -/
theorem Stands.stay (h : Stands takes w e attempts) (hnotes : Notes e e' [])
    (hstanding : Standing e' w attempts (e'.core.phaseOf w)) : Stands takes w e' attempts where
  trace := (entriesOf_eq_of_trace hnotes.trace nofun).trans h.trace
  sound := h.sound
  chain := by
    rw [hnotes.settings]
    exact h.chain
  standing := hstanding

variable {done : List Attempt} {begun : Engine} {fate : Fate} {more : List Event}

/-- The last attempt goes on. -/
theorem Stands.goOn (h : Stands takes w e (done ++ [⟨begun, fate⟩])) (hnotes : Notes e e' more)
    (hmore : ∀ event ∈ more, event.task? = some (.worker w)) (fate' : Engine → Fate)
    (hentries : (fate' e').entries w = fate.entries w ++ more.map (⟨e.now, ·⟩))
    (hsound : ∀ prior, fate.Sound takes w prior →
      e'.entriesOf (.worker w) = prior ++ (fate' e').entries w →
        (fate' e').Sound takes w prior)
    (hstanding : Standing e' w (done ++ [⟨begun, fate' e'⟩]) (e'.core.phaseOf w)) :
    ∃ attempts, Stands takes w e' attempts := by
  have htrace : e'.entriesOf (.worker w) =
      done.flatMap (Attempt.entries w) ++ [begun.asking w] ++ (fate' e').entries w := by
    rw [hnotes.entriesOf hmore, h.trace, hentries]
    simp [Attempt.entries]
  refine ⟨done ++ [⟨begun, fate' e'⟩], ?_⟩
  constructor
  case trace => simpa [Attempt.entries] using htrace
  case sound =>
    obtain ⟨hdone, hslot, hcomes, hfate⟩ := accounted_concat.1 h.sound
    exact accounted_concat.2 ⟨hdone, hslot, hcomes, hsound _ hfate htrace⟩
  case chain =>
    -- when an attempt has begun does not depend on what becomes of it
    rw [hnotes.settings]
    obtain ⟨hdone, -, hlast⟩ := List.isChain_append.1 h.chain
    refine List.isChain_append.2 ⟨hdone, List.isChain_singleton _, fun a ha b hb => ?_⟩
    cases hb
    exact hlast a ha ⟨begun, fate⟩ rfl
  case standing => exact hstanding

variable {m : Engine} {serial : Nat} {turns : List Turn} {rest : Rest}

/-- A record has been dealt with. -/
theorem Stands.turn
    (h : Stands takes w e (done ++ [⟨begun, .opened m serial turns rest⟩]))
    (hnotes : Notes e e' more) (hmore : ∀ event ∈ more, event.task? = some (.worker w))
    (htakes : takes e e') (t : Engine → Turn)
    (hentries : (t e').entries w serial = rest.entries w serial ++ more.map (⟨e.now, ·⟩))
    (hsound : ∀ prior, rest.Sound takes w serial prior →
      e'.Comes w takes (prior ++ (t e').entries w serial) → (t e').Sound takes w serial prior)
    (since : begun.now ≤ e.now) {body : Body} (hphase : e'.core.phaseOf w = .reading body)
    (hserial : body.serial = serial) :
    ∃ attempts, Stands takes w e' attempts := by
  refine h.goOn hnotes hmore (fun e' => .opened m serial (turns ++ [t e']) .reads) ?_ ?_ ?_
  · simp [Fate.entries, hentries, Rest.entries]
  · rintro prior ⟨hcomes, hturns, hrest⟩ htrace
    refine ⟨hcomes, accounted_concat.2 ⟨hturns, hsound _ hrest ⟨⟨e, htakes⟩, ?_⟩⟩, trivial⟩
    rw [htrace]
    simp [Fate.entries, Rest.entries]
  · rw [hphase]
    rw [← hnotes.now] at since
    subst hserial
    exact .plain (.reads m body _) since rfl

/-! ### The moves of a worker -/

section Moves

variable {k : Worker} (hk : e.workers[w]? = some k) (hepoch : e.epoch = k.epoch)

include hk hepoch

/-- A worker that begins to read a stream has been granted it. -/
theorem Stands.read (h : Stands takes w e attempts) (htakes : takes e (e.beginReading w k.epoch))
    (hphase : k.phase = .opening (some .success)) :
    ∃ attempts, Stands takes w (e.beginReading w k.epoch) attempts := by
  have hnotes := notes_beginReading e w k.epoch
  have hstanding := h.standing
  rw [phaseOf_eq hk, hphase] at hstanding
  have hreading : (e.beginReading w k.epoch).core.phaseOf w = .reading (.fresh e.streams) :=
    phaseOf_of_core hk (core_beginReading hepoch) rfl
  obtain ⟨done, begun, rfl, since⟩ := hstanding.answered
  refine h.goOn hnotes (by simp [Event.task?]) (.opened · e.streams [] .reads) ?_ ?_ ?_
  · simp [Fate.entries, openings, Rest.entries, hnotes.now]
  · intro prior _ htrace
    refine ⟨⟨⟨e, htakes⟩, ?_⟩, trivial, trivial⟩
    rw [htrace]
    simp [Fate.entries, Rest.entries]
  · rw [hreading]
    rw [← hnotes.now] at since
    exact .plain (.reads _ (.fresh e.streams) []) since rfl

/-- A worker whose attempt has ended with a loss pauses. -/
theorem standing_endAttempt {a : Attempt} (hlost : a.lost? = some (e.endAttempt w k.epoch))
    (since : a.begun.now ≤ e.now) :
    Standing (e.endAttempt w k.epoch) w (done ++ [a])
      ((e.endAttempt w k.epoch).core.phaseOf w) := by
  have hnotes := notes_endAttempt e w k.epoch
  have hpausing : (e.endAttempt w k.epoch).core.phaseOf w = .pausing (e.now + e.settings.pause) :=
    phaseOf_of_core hk (core_endAttempt hepoch) rfl
  rw [← hnotes.now, ← hnotes.settings] at hpausing
  rw [hpausing]
  rw [← hnotes.now] at since
  exact .pausing hlost since (Nat.le_add_right _ _)

variable (hslot : e.slot = some w)

include hslot

/-- A worker that begins an attempt has made none yet, or its pause has ended just now. -/
theorem Stands.attempt (h : Stands takes w e attempts) (htakes : takes e (e.beginAttempt w k.epoch))
    (hphase : k.phase = .starting ∨ ∃ resumes ≤ e.now, k.phase = .pausing resumes) :
    ∃ attempts, Stands takes w (e.beginAttempt w k.epoch) attempts := by
  have hnotes := notes_beginAttempt e w k.epoch
  have hcore := core_beginAttempt (w := w) hepoch
  have hstanding := h.standing
  rw [phaseOf_eq hk] at hstanding
  have htrace : (e.beginAttempt w k.epoch).entriesOf (.worker w) =
      attempts.flatMap (Attempt.entries w) ++ [(e.beginAttempt w k.epoch).asking w] := by
    rw [hnotes.entriesOf (by simp [Event.task?]), h.trace, asking_beginAttempt]
    rfl
  refine ⟨attempts ++ [⟨e.beginAttempt w k.epoch, .asked⟩], ?_⟩
  constructor
  case trace => simpa [Attempt.entries, Fate.entries] using htrace
  case sound =>
    refine accounted_concat.2 ⟨h.sound, ?_, ⟨⟨e, htakes⟩, htrace⟩, trivial⟩
    exact (congrArg Core.slot hcore).trans hslot
  case chain =>
    rw [hnotes.settings]
    refine List.isChain_append.2 ⟨h.chain, List.isChain_singleton _, fun a ha b hb => ?_⟩
    cases hb
    rcases hphase with hstarting | ⟨resumes, hdue, hpausing⟩
    · rw [hstarting] at hstanding
      cases hstanding with
      | starting => cases ha
      | pending pending => cases pending
    · rw [hpausing] at hstanding
      cases hstanding with
      | pending pending => cases pending
      | pausing lost since early =>
        -- the pause is over, and time has not passed its end
        rw [List.getLast?_concat] at ha
        cases ha
        exact ⟨_, lost, since, hnotes.now.trans (Nat.le_antisymm early hdue)⟩
  case standing =>
    rw [phaseOf_of_core hk hcore rfl]
    exact .plain .asked (Nat.le_refl _) rfl

/-- A worker ends an attempt: its request has failed, or its stream has yielded an error or has
ended. -/
theorem Stands.lose (h : Stands takes w e attempts) (htakes : takes e (e.endAttempt w k.epoch))
    (hphase : (∃ error, k.phase = .opening (some (.failure error))) ∨
      ∃ body, k.phase = .reading body ∧
        ((∃ error after, body.records.advance = .yields (.error error) after) ∨
          body.records.advance = .starves ∧ body.ended = true)) :
    ∃ attempts, Stands takes w (e.endAttempt w k.epoch) attempts := by
  have hnotes := notes_endAttempt e w k.epoch
  have hmore : ∀ event ∈ e.onDisconnect.map fun o => Event.lost w o e.registry.activeTopics,
      event.task? = some (.worker w) := List.forall_mem_map.2 fun _ _ => rfl
  have hlosses := losses_endAttempt e w k.epoch
  have hdrops := drops_endAttempt hepoch hslot
  have hstanding := h.standing
  rw [phaseOf_eq hk] at hstanding
  rcases hphase with ⟨error, hphase⟩ | ⟨body, hphase, hbreaks⟩
  · rw [hphase] at hstanding
    obtain ⟨done, begun, rfl, since⟩ := hstanding.answered
    refine h.goOn hnotes hmore (.refused error ·) ?_ ?_ (standing_endAttempt hk hepoch rfl since)
    · simp [Fate.entries, hlosses, hnotes.now]
    · exact fun prior _ htrace => ⟨hdrops, ⟨e, htakes⟩, htrace⟩
  · rw [hphase] at hstanding
    obtain ⟨done, begun, m, turns, rfl, since⟩ := hstanding.reading
    refine h.goOn hnotes hmore (fun e' => .opened m body.serial turns (.lost e')) ?_ ?_
      (standing_endAttempt hk hepoch rfl since)
    · simp [Fate.entries, Rest.entries, hlosses]
    · rintro prior ⟨hcomes, hturns, -⟩ htrace
      refine ⟨hcomes, hturns, ⟨e, htakes, k, body, hk, hphase, rfl, hbreaks⟩, hdrops, ?_⟩
      rw [htrace]
      simp [Fate.entries]

end Moves

/-- What a worker does itself goes on with the last attempt, or begins a new one. -/
theorem Stands.workerMove (h : Stands takes w e attempts) (htakes : takes e e')
    (hinv : e.core.SlotInv) (hsession : e.core.SessionInv) {k : Worker}
    (hk : e.workers[w]? = some k) (hover : k.phase.isOver = false) (hmove : WorkerMove e w k e') :
    ∃ attempts, Stands takes w e' attempts := by
  have hlive (live : k.cancelled = false) : e.slot = some w ∧ e.epoch = k.epoch := by
    obtain ⟨hslot, hepoch⟩ := hinv.slot_of_live hk hover live
    exact ⟨hslot, hepoch.symm⟩
  have hstanding := h.standing
  rw [phaseOf_eq hk] at hstanding
  -- `attempt` begins a new attempt, `finish`, `crash` and `take` leave no trace, and all other
  -- moves go on with the last attempt
  cases hmove with
  | finish cancelled =>
    obtain ⟨hout, hepoch⟩ := hinv.epoch_ne_of_cancelled hk cancelled
    have hcore := core_finishWorker (w := w) hepoch.symm
    refine ⟨attempts, h.stay (notes_finishWorker e w k.epoch) ?_⟩
    rw [phaseOf_of_core hk hcore rfl]
    exact .finished fun hslot => hout ((congrArg Core.slot hcore).symm.trans hslot)
  | attempt live phase =>
    obtain ⟨hslot, hepoch⟩ := hlive live
    exact h.attempt hk hepoch hslot htakes phase
  | read live phase => exact h.read hk (hlive live).2 htakes phase
  | lose live phase =>
    obtain ⟨hslot, hepoch⟩ := hlive live
    exact h.lose hk hepoch hslot htakes phase
  | crash live phase =>
    refine ⟨attempts, h.stay (notes_setWorker e w .crashed) ?_⟩
    rw [phaseOf_of_core hk (core_setWorker e w .crashed) rfl]
    refine .crashed fun a ha => ?_
    -- the attempt has not ended with a loss
    rcases phase with hphase | ⟨clientId, body, hphase⟩ <;> rw [hphase] at hstanding <;>
      cases hstanding with
      | pending pending =>
        rw [List.getLast?_concat] at ha
        cases ha
        cases pending
        rfl
  | @take live body phase after next =>
    refine ⟨attempts, h.stay (notes_setWorker e w _) ?_⟩
    rw [phaseOf_of_core hk (core_setWorker e w _) rfl]
    rw [phase] at hstanding
    obtain ⟨done, begun, m, turns, rfl, since⟩ := hstanding.reading
    exact .plain (.reads m { body with records := after } turns) since rfl
  | @deliver live body phase record after next plain =>
    rw [phase] at hstanding
    -- every listener is called, whichever of them crash
    rw [dispatch_eq] at htakes ⊢
    obtain ⟨done, begun, m, turns, rfl, since⟩ := hstanding.reading
    refine h.turn (((notes_note e (.read w body.serial record)).trans
      (notes_noteAll _ _)).setWorker w _) ?_ htakes (.deliver · record) ?_ ?_ since
      (phaseOf_of_core hk rfl rfl) rfl
    · exact List.forall_mem_cons.2 ⟨rfl, List.forall_mem_map.2 fun _ _ => rfl⟩
    · simp only [Turn.entries, Rest.entries, callings, List.map_append, List.map_map]
      rfl
    · exact fun prior _ hcomes => ⟨plain, hcomes⟩
  -- a worker that has not been told to end is never late
  | passOver live phase next greeting late => exact absurd (hlive live).2 late
  | @announce live body phase record after next clientId greeting current due =>
    rw [phase] at hstanding
    obtain ⟨done, begun, m, turns, rfl, since⟩ := hstanding.reading
    refine h.goOn (((notes_greeted e w body.serial record clientId).trans
      (notes_note _ (.announced (.worker w) clientId e.registry.activeTopics))).setWorker w _)
      (by simp [Event.task?])
      (fun e' => .opened m body.serial turns (.holds ⟨e', record, clientId⟩ none)) ?_ ?_ ?_
    · simp only [Fate.entries, Rest.entries, List.append_nil, Option.map_none,
        Option.toList_none]
      rfl
    · rintro prior ⟨hcomes, hturns, -⟩ htrace
      refine ⟨hcomes, hturns, greeting, ⟨rfl, rfl, (hlive live).1⟩, due, ⟨e, htakes⟩, ?_⟩
      rw [htrace]
      simp [Fate.entries, Rest.entries]
    · rw [phaseOf_of_core hk rfl rfl]
      refine .pending (.holds m { body with records := after } turns ⟨_, record, clientId⟩ none)
        since fun clientId' heq _ => ?_
      cases heq
      rfl
  | @establish live body phase record after next clientId greeting current nothing =>
    rw [phase] at hstanding
    rw [notifyConnected_eq] at htakes ⊢
    obtain ⟨done, begun, m, turns, rfl, since⟩ := hstanding.reading
    refine h.turn (((notes_greeted e w body.serial record clientId).trans
      (notes_noteAll _ _)).setWorker w _) ?_ htakes (.greet · record clientId)
      ?_ ?_ since (phaseOf_of_core hk rfl rfl) rfl
    · exact List.forall_mem_cons.2 ⟨rfl, List.forall_mem_map.2 fun _ _ => rfl⟩
    · simp only [Turn.entries, Rest.entries, tellings, List.map_append, List.map_map]
      rfl
    · exact fun prior _ hcomes => ⟨greeting, ⟨rfl, rfl, (hlive live).1⟩, nothing, hcomes⟩
  | @greet live clientId body answer phase survives =>
    rw [phase] at hstanding
    rw [notifyConnected_eq] at htakes ⊢
    cases hstanding with
    | pending pending since held =>
      cases pending with
      | holds m body turns g answer =>
        -- the session is still that of the greeting, as the worker has been in the slot since
        have hslot := (hlive live).1
        have hgreets := held g.clientId rfl hslot
        have hready : e.ready = true := hsession.ready.trans (congrArg Session.ready hgreets)
        refine h.turn ((notes_noteAll e _).setWorker w _) ?_ htakes
          (.announce g answer ·) ?_ ?_ since (phaseOf_of_core hk rfl rfl) rfl
        · exact List.forall_mem_map.2 fun _ _ => rfl
        · simp only [Turn.entries, Rest.entries, tellings, List.map_map, Option.map_some,
            Option.toList_some, List.append_assoc, List.singleton_append]
          rfl
        · exact fun prior hsound hcomes => ⟨hsound, survives, ⟨hgreets, hready, hslot⟩, hcomes⟩

/-- An answer for a worker is about its last attempt. -/
theorem Stands.giveAnswer (h : Stands takes w e attempts)
    (hawaits : e.awaitsAnswer (.worker w) = true) (answer : Answer) :
    ∃ attempts, Stands takes w (e.giveAnswer (.worker w) answer) attempts := by
  have hnotes := notes_giveAnswer e (.worker w) answer
  have hmore : ∀ event ∈ [Event.answered (.worker w) answer], event.task? = some (.worker w) := by
    simp [Event.task?]
  -- the worker is in a phase in which it waits
  unfold awaitsAnswer at hawaits
  simp only at hawaits
  split at hawaits
  · rename_i k hk
    have hphase : (e.giveAnswer (.worker w) answer).core.phaseOf w = k.phase.withAnswer answer := by
      simp [phaseOf, core, Engine.giveAnswer, note, hk]
    have hstanding := h.standing
    rw [phaseOf_eq hk] at hstanding
    split at hawaits
    · rename_i hopening
      rw [hopening] at hphase hstanding
      cases hstanding with
      | pending pending since held =>
        cases pending with
        | asked =>
          refine h.goOn hnotes hmore (fun _ => .answered e.now answer) rfl (fun _ _ _ => trivial) ?_
          rw [hphase]
          exact .plain (.answered answer) since rfl
    · rename_i clientId body hgreeting
      rw [hgreeting] at hphase hstanding
      cases hstanding with
      | pending pending since held =>
        cases pending with
        | holds m body turns g =>
          refine h.goOn hnotes hmore
            (fun _ => .opened m body.serial turns (.holds g (some (e.now, answer)))) ?_
            (fun _ hsound _ => hsound) ?_
          · simp [Fate.entries, Rest.entries, Answer.entry]
          · rw [hphase]
            exact .pending (.holds m body turns g (some answer)) since held
    · cases hawaits
  · cases hawaits

/-- As long as a worker is in the slot, it begins its next attempt no later than a pause after a
loss. -/
theorem Standing.next {a : Attempt} {m : Engine}
    (h : Standing e w attempts (e.core.phaseOf w)) (hlast : attempts.getLast? = some a)
    (hlost : a.lost? = some m) (hslot : e.slot = some w) :
    e.now ≤ m.now + e.settings.pause ∧ (Quiescent e → e.now < m.now + e.settings.pause) := by
  generalize hold : e.core.phaseOf w = phase at h
  cases h with
  | starting => cases hlast
  | pending pending since held =>
    rw [List.getLast?_concat] at hlast
    cases hlast
    cases pending <;> cases hlost
  | @pausing done a' m' lost since early =>
    rw [List.getLast?_concat] at hlast
    cases hlast
    cases lost.symm.trans hlost
    refine ⟨early, fun hquiet => Nat.lt_of_not_le fun hdue => ?_⟩
    -- a worker whose pause is over can go on
    obtain ⟨k, -, -, hnone⟩ := exists_waiting_of_quiescent hquiet hold nofun rfl
    rw [continueWorker, if_pos hdue] at hnone
    cases hnone
  | finished out => exact absurd hslot out
  | crashed last =>
    rw [last a hlast] at hlost
    cases hlost

end Standing

/-! ### Steps and runs -/

section Runs

variable {settings : Settings} {credential : Option String} {e e' : Engine} {actions : List Action}
  {takes : Engine → Engine → Prop} {w : Nat} {attempts : List Attempt}

/-- After any step what concerns a worker is a sequence of attempts. -/
theorem Stands.step {action : Action} (h : Stands takes w e attempts)
    (he : Reachable settings credential e) (hstep : e.step action = some e')
    (htakes : ∀ preferAnswer, action = .resume (.worker w) preferAnswer → takes e e') :
    ∃ attempts, Stands takes w e' attempts := by
  have hinv := slotInv_of_reachable he
  by_cases htask : action.task? e = some (.worker w)
  · -- the worker goes on, or it is answered
    cases stepMove_of_step hstep with
    | worker present running move preferAnswer =>
      cases htask
      exact h.workerMove (htakes preferAnswer rfl) hinv (sessionInv_of_reachable he) present running
        move
    | answer awaited answer =>
      cases htask
      exact h.giveAnswer awaited answer
    | start | closeHandle | call => cases htask
    | arrive | finish | tick | dropWorker | dropClient | setCredential | observeConnect
    | observeDisconnect => cases htask
  · obtain ⟨-, -, hsettings, -, hnow⟩ := notes_of_step hstep
    refine ⟨attempts, (entriesOf_step hstep htask).trans h.trace, h.sound, ?_, ?_⟩
    · rw [hsettings]
      exact h.chain
    · have hbeside := beside_of_step hinv hstep htask
      cases stepMove_of_step hstep with
      | tick idle later due => exact h.standing.tick (quiescent_iff.2 idle) later due
      | _ => exact h.standing.beside hbeside (hnow nofun) hsettings

/-- Along a run what concerns a worker is a sequence of attempts. -/
theorem Stands.run (h : Stands takes w e attempts) (he : Reachable settings credential e)
    (hrun : e.run actions = some e')
    (htakes : ∀ m₀ preferAnswer m,
      e.Passes actions e' m₀ (.resume (.worker w) preferAnswer) m → takes m₀ m) :
    ∃ attempts, Stands takes w e' attempts := by
  -- induction on the actions, with the steps of the whole run as those that may be taken
  induction actions generalizing e attempts with
  | nil =>
    cases hrun
    exact ⟨attempts, h⟩
  | cons action actions ih =>
    obtain ⟨e₁, hstep, hrest⟩ := Option.bind_eq_some_iff.1 hrun
    obtain ⟨attempts₁, h₁⟩ := h.step he hstep fun preferAnswer heq => by
      subst heq
      exact htakes e preferAnswer e₁ ⟨hstep, [], actions, rfl, rfl, hrest⟩
    exact ih h₁ (he.step action hstep) hrest fun m₀ preferAnswer m hpasses =>
      htakes m₀ preferAnswer m (hpasses.cons hstep)

/-- The steps that a worker takes along a run. -/
def Takes (e : Engine) (actions : List Action) (e' : Engine) (w : Nat) (m₀ m : Engine) : Prop :=
  ∃ preferAnswer, e.Passes actions e' m₀ (.resume (.worker w) preferAnswer) m

/-- What concerns a worker, all that it does and all answers to it, is a sequence of attempts.

* Each begins with a request for a stream, the only one in it.
* If a stream is granted, each greeting read from it is told to all observers of greetings in order,
  but not before its announcement, if one was due, has succeeded or failed, and while its session is
  ready.
* If the request fails, or the stream yields an error or ends, then in the same step, before time
  passes, the session is reset and all observers of lost streams are told of the topics that are
  active, while the connection is being made again. Whether observers crash does not matter.
* The next attempt begins exactly a pause later, and time does not pass that moment without it as
  long as the worker is in the slot. So two requests are never closer than a pause.
* Once a worker is not in the slot any more it does nothing, however the run goes on. -/
theorem trace_of_worker (hrun : (Engine.initial settings credential).run actions = some e)
    (w : Nat) :
    ∃ attempts : List Attempt,
      e.entriesOf (.worker w) = attempts.flatMap (Attempt.entries w) ∧
      Accounted (Attempt.entries w)
        (Attempt.Sound ((Engine.initial settings credential).Takes actions e w) w) [] attempts ∧
      attempts.IsChain (Attempt.Precedes settings.pause) ∧
      (∀ a m, attempts.getLast? = some a → a.lost? = some m → e.slot = some w →
        e.now ≤ m.now + settings.pause ∧ (Quiescent e → e.now < m.now + settings.pause)) ∧
      (Quiescent e → ∀ serial, ¬ e.Breaks w serial) ∧
      e.requestTimes w = attempts.map (·.begun.now) ∧
      (e.requestTimes w).IsChain (fun s t => s + settings.pause ≤ t) ∧
      (e.Retired w → ∀ more e', e.run more = some e' → e'.doneBy w = e.doneBy w) := by
  have hreach := Reachable.initial.run hrun
  have hinitial : Stands ((Engine.initial settings credential).Takes actions e w) w
      (.initial settings credential) [] := ⟨rfl, trivial, .nil, .starting⟩
  obtain ⟨attempts, hstands⟩ := hinitial.run .initial hrun fun _ preferAnswer _ hpasses =>
    ⟨preferAnswer, hpasses⟩
  have hchain := hstands.chain
  have htimes := requestTimes_eq hstands.trace
  rw [settings_of_reachable hreach] at hchain
  refine ⟨attempts, hstands.trace, hstands.sound, hchain, fun a m hlast hlost hslot => ?_,
    fun hquiet => not_breaks_of_quiescent hquiet w, htimes, ?_,
    fun hretired more e' hmore => (silent_run hreach hretired hmore).done⟩
  · rw [← settings_of_reachable hreach]
    exact hstands.standing.next hlast hlost hslot
  · rw [htimes]
    exact isChain_begun hchain

end Runs

/-- The first request of a worker is refused. The second, a pause later, is granted, and a greeting
is read whose announcement fails. Then the stream ends. The observer of lost streams crashes. -/
def refusedThenEnded : List Action :=
  [.observeConnect ⟨"greeted", false⟩, .observeDisconnect ⟨"lost", true⟩,
    .start (.subscribe "news" .none (.sample "first" false)), .resume (.worker 0) true,
    .answer (.worker 0) (.failure (.other "refused")), .resume (.worker 0) true, .tick 1000] ++
    openingActions 0 0 (greetingBytes "c1") ++
    [.resume (.worker 0) true, .answer (.worker 0) (.failure (.other "down")),
      .resume (.worker 0) true, .finish 0, .resume (.worker 0) true]

/-- The worker has made two attempts, both of which have ended with a loss, and has not begun a
third one. -/
theorem trace_of_worker_refusedThenEnded :
    ∃ e, (Engine.initial .sample none).run refusedThenEnded = some e ∧ e.slot = some 0 ∧
      ∃ attempts : List Attempt,
        e.entriesOf (.worker 0) = attempts.flatMap (Attempt.entries 0) ∧
        attempts.map (·.begun.now) = [0, 1000] ∧
        attempts.IsChain (Attempt.Precedes 1000) ∧
        ∀ a m, attempts.getLast? = some a → a.lost? = some m → e.now < m.now + 1000 := by
  obtain ⟨e, hrun, hend⟩ := exists_run (.initial .sample none) refusedThenEnded
    (fun e => (e.slot = some 0 && e.isQuiescent) && e.requestTimes 0 = [0, 1000])
    (by decide +kernel)
  obtain ⟨hstate, htimes⟩ := Bool.and_eq_true_iff.1 hend
  obtain ⟨hslot, hquiet⟩ := Bool.and_eq_true_iff.1 hstate
  obtain ⟨attempts, htrace, -, hchain, hnext, -, hbegun, -⟩ := trace_of_worker hrun 0
  exact ⟨e, hrun, of_decide_eq_true hslot, attempts, htrace,
    hbegun.symm.trans (of_decide_eq_true htimes), hchain, fun a m hlast hlost =>
      (hnext a m hlast hlost (of_decide_eq_true hslot)).2 (quiescent_iff.2 hquiet)⟩

/-- A stream ends while the pause asked for is as long as can be. -/
def endedForAges : List Action :=
  [.start (.subscribe "news" .none (.sample "first" false))] ++
    openingActions 0 0 (greetingBytes "c1") ++
    [.resume (.worker 0) true, .answer (.worker 0) .success, .resume (.worker 0) true,
      .resume (.call 0) true, .answer (.call 0) .success, .resume (.call 0) true, .finish 0,
      .resume (.worker 0) true, .tick 946080000000, .resume (.worker 0) true]

/-- The pause asked for is not always made: after the longest one the worker, which has neither been
given up nor crashed, asks for a stream again. -/
theorem exists_requests_closer_than_reconnectDelay :
    ∃ e, (Engine.initial { Settings.sample with reconnectDelay := 18446744073709551615 } none).run
        endedForAges = some e ∧
      e.slot = some 0 ∧ e.isOver 0 = false ∧ e.requestTimes 0 = [0, longestPause] ∧
      ¬ (e.requestTimes 0).IsChain fun s t => s + e.settings.reconnectDelay ≤ t := by
  obtain ⟨e, hrun, hend⟩ := exists_run
    (.initial { Settings.sample with reconnectDelay := 18446744073709551615 } none) endedForAges
    (fun e => (e.slot = some 0 && !e.isOver 0) && (e.requestTimes 0 = [0, longestPause] &&
      e.settings.reconnectDelay = 18446744073709551615)) (by decide +kernel)
  obtain ⟨⟨hslot, hrunning⟩, htimes, hdelay⟩ : (e.slot = some 0 ∧ e.isOver 0 = false) ∧
      e.requestTimes 0 = [0, longestPause] ∧
      e.settings.reconnectDelay = 18446744073709551615 := by simpa using hend
  refine ⟨e, hrun, hslot, hrunning, htimes, ?_⟩
  rw [htimes, hdelay]
  decide

end TopicStream.Engine
