import TopicStream.Proofs.Engine.Slot
import TopicStream.Proofs.Engine.Log
import TopicStream.Proofs.Event.Stream

/-!
# The courses of streams

A worker reads from a stream the records that the stream's body decodes to, in order and without
leaving any out, until the stream fails or ends, the worker is told to end, or it crashes while it
announces the topics for a greeting. Nothing else ends the reading; a listener that crashes does
not.

## Main results

* `Course`: what may have become of a stream;
* `Core.StreamInv`: the streams that are read, with what has arrived, and the course of all others;
* `course_of_reachable`: in a reachable state every stream that was ever opened takes such a course.
-/

namespace TopicStream.Engine

open TopicStream.Event

/-- Why a worker has stopped reading a stream, and what it has read by then. -/
inductive Stopped (workers : List Worker) (log : List Event) (w serial : Nat) : Prop
  /-- An error came next. -/
  | failed {error : ClientError} {rest : List (Except ClientError Record)}
      (records : decodeAll (arrivals serial log) =
        (recordsRead w serial log).map .ok ++ .error error :: rest)
  /-- The body ended after the last record. -/
  | ended (ended : .ended serial ∈ log)
      (records : decodeAll (arrivals serial log) = (recordsRead w serial log).map .ok)
  /-- The worker was told to end. -/
  | retired {k : Worker} (worker : workers[w]? = some k) (cancelled : k.cancelled = true)
      {rest : List (Except ClientError Record)}
      (records : decodeAll (arrivals serial log) = (recordsRead w serial log).map .ok ++ rest)
  /-- The worker crashed while it announced the topics for a greeting. -/
  | crashed {k : Worker} (worker : workers[w]? = some k) (phase : k.phase = .crashed)
      {record : Record} (last : (recordsRead w serial log).getLast? = some record)
      (greeting : record.handshake?.isSome = true) {rest : List (Except ClientError Record)}
      (records : decodeAll (arrivals serial log) = (recordsRead w serial log).map .ok ++ rest)

/-- A worker is reading a stream. -/
def IsRead (workers : List Worker) (w serial : Nat) : Prop :=
  ∃ k body, workers[w]? = some k ∧ k.phase.body? = some body ∧ body.serial = serial

/-- What may have become of a stream that a worker has opened. -/
inductive Course (workers : List Worker) (log : List Event) (w serial : Nat) : Prop
  /-- The worker is reading it: the records left are those of what has arrived. -/
  | underway {k : Worker} {body : Body} (worker : workers[w]? = some k)
      (reads : k.phase.body? = some body) (current : body.serial = serial)
      (records : decodeAll (arrivals serial log) =
        (recordsRead w serial log).map .ok ++ body.records.toList)
  /-- The worker has stopped. -/
  | stopped (stopped : Stopped workers log w serial)

theorem exists_body_of_reads {k : Worker} {serial : Nat} (h : k.reads serial = true) :
    ∃ body, k.phase.body? = some body ∧ body.serial = serial := by
  unfold Worker.reads at h
  split at h
  · rename_i body hbody
    exact ⟨body, hbody, by simpa using (Bool.and_eq_true_iff.1 h).1⟩
  · cases h

/-- A stopped stream stays stopped while nothing happens to it. -/
theorem Stopped.mono {workers workers' : List Worker} {log log' : List Event} {w serial : Nat}
    (h : Stopped workers log w serial)
    (harrivals : arrivals serial log' = arrivals serial log)
    (hrecords : recordsRead w serial log' = recordsRead w serial log)
    (hended : Event.ended serial ∈ log → Event.ended serial ∈ log')
    (hworkers : ∀ k, workers[w]? = some k → ∃ k', workers'[w]? = some k' ∧
      (k.cancelled = true → k'.cancelled = true) ∧
      (k.phase = .crashed → k'.phase = .crashed)) : Stopped workers' log' w serial := by
  cases h with
  | failed records =>
    rw [← harrivals, ← hrecords] at records
    exact .failed records
  | ended ended records =>
    rw [← harrivals, ← hrecords] at records
    exact .ended (hended ended) records
  | retired worker cancelled records =>
    rw [← harrivals, ← hrecords] at records
    obtain ⟨k', hk', hcancelled, -⟩ := hworkers _ worker
    exact .retired hk' (hcancelled cancelled) records
  | crashed worker phase last greeting records =>
    rw [← harrivals, ← hrecords] at records
    rw [← hrecords] at last
    obtain ⟨k', hk', -, hcrashed⟩ := hworkers _ worker
    exact .crashed hk' (hcrashed phase) last greeting records

namespace Core

/-- The streams that are read, with what has arrived, and why the reading of others has stopped. -/
structure StreamInv (c : Core) : Prop where
  /-- Only streams that have been opened have a history. -/
  fresh : ∀ event ∈ c.log, ∀ serial, event.stream? = some serial → serial < c.streams
  /-- A stream is opened by one worker. -/
  unique : ∀ w w' serial, .opened w serial ∈ c.log → .opened w' serial ∈ c.log → w = w'
  /-- A worker reads a stream that it has opened. -/
  owner : ∀ (i : Nat) (k : Worker) (body : Body), c.workers[i]? = some k →
    k.phase.body? = some body → .opened i body.serial ∈ c.log
  /-- A worker has handed out the records of what has arrived. -/
  follows : ∀ (i : Nat) (k : Worker) (body : Body), c.workers[i]? = some k →
    k.phase.body? = some body →
    body.records.Follows (arrivals body.serial c.log) (recordsRead i body.serial c.log)
  /-- A body that has ended is known to have. -/
  ended : ∀ (i : Nat) (k : Worker) (body : Body), c.workers[i]? = some k →
    k.phase.body? = some body → body.ended = true → .ended body.serial ∈ c.log
  /-- A worker that announces the topics for a greeting has read it last. -/
  greeted : ∀ (i : Nat) (k : Worker) (clientId : String) (body : Body) (answer : Option Answer),
    c.workers[i]? = some k → k.phase = .greeting clientId body answer →
    ∃ record, (recordsRead i body.serial c.log).getLast? = some record ∧
      record.handshake? = some clientId
  /-- A stream that is not read any more has been stopped. -/
  stopped : ∀ w serial, .opened w serial ∈ c.log →
    IsRead c.workers w serial ∨ Stopped c.workers c.log w serial

/-! ### What does not concern a stream -/

section Steady

variable {c : Core}

/-- Session, connection, epoch and slot do not matter for the streams. -/
theorem StreamInv.of_eq {c' : Core} (h : c.StreamInv) (hworkers : c'.workers = c.workers)
    (hstreams : c'.streams = c.streams) (hlog : c'.log = c.log) : c'.StreamInv := by
  constructor
  case fresh =>
    rw [hlog, hstreams]
    exact h.fresh
  case unique =>
    rw [hlog]
    exact h.unique
  case owner =>
    rw [hlog, hworkers]
    exact h.owner
  case follows =>
    rw [hlog, hworkers]
    exact h.follows
  case ended =>
    rw [hlog, hworkers]
    exact h.ended
  case greeted =>
    rw [hlog, hworkers]
    exact h.greeted
  case stopped =>
    rw [hlog, hworkers]
    exact h.stopped

/-- What happens without a stream, to workers that keep theirs, keeps the invariant. -/
theorem StreamInv.of_workers (h : c.StreamInv) {workers : List Worker} {more : List Event}
    (hmore : ∀ event ∈ more, event.stream? = none)
    (hback : ∀ (i : Nat) (k' : Worker) (body : Body), workers[i]? = some k' →
      k'.phase.body? = some body → ∃ k, c.workers[i]? = some k ∧ k.phase.body? = some body ∧
        ∀ clientId answer, k'.phase = .greeting clientId body answer →
          ∃ answer', k.phase = .greeting clientId body answer')
    (hforth : ∀ (i : Nat) (k : Worker), c.workers[i]? = some k → ∃ k', workers[i]? = some k' ∧
      k'.phase.body? = k.phase.body? ∧ (k.cancelled = true → k'.cancelled = true) ∧
      (k.phase = .crashed → k'.phase = .crashed)) :
    StreamInv { c with workers, log := c.log ++ more } := by
  -- nothing that is read off the log about a stream changes
  have hnot : ∀ serial, ∀ event ∈ more, event.stream? ≠ some serial := by
    intro serial event hevent
    rw [hmore event hevent]
    exact nofun
  have harrivals : ∀ serial, arrivals serial (c.log ++ more) = arrivals serial c.log :=
    fun serial => arrivals_append_of_stream (hnot serial)
  have hrecords : ∀ w serial,
      recordsRead w serial (c.log ++ more) = recordsRead w serial c.log :=
    fun w serial => recordsRead_append_of_stream (hnot serial)
  have hopened : ∀ {w serial}, Event.opened w serial ∈ c.log ++ more →
      Event.opened w serial ∈ c.log := by
    intro w serial hmem
    rcases List.mem_append.1 hmem with hold | hnew
    · exact hold
    · cases hmore _ hnew
  constructor
  case fresh =>
    intro event hevent serial hstream
    rcases List.mem_append.1 hevent with hold | hnew
    · exact h.fresh event hold serial hstream
    · exact absurd hstream (hnot serial event hnew)
  case unique =>
    intro w w' serial hw hw'
    exact h.unique w w' serial (hopened hw) (hopened hw')
  case owner =>
    intro i k' body hk' hb
    obtain ⟨k, hk, hb', -⟩ := hback i k' body hk' hb
    exact List.mem_append_left _ (h.owner i k body hk hb')
  case follows =>
    intro i k' body hk' hb
    obtain ⟨k, hk, hb', -⟩ := hback i k' body hk' hb
    rw [harrivals, hrecords]
    exact h.follows i k body hk hb'
  case ended =>
    intro i k' body hk' hb hended
    obtain ⟨k, hk, hb', -⟩ := hback i k' body hk' hb
    exact List.mem_append_left _ (h.ended i k body hk hb' hended)
  case greeted =>
    intro i k' clientId body answer hk' hphase
    obtain ⟨k, hk, -, hgreeting⟩ := hback i k' body hk' (by rw [hphase]; rfl)
    obtain ⟨answer', hphase'⟩ := hgreeting clientId answer hphase
    rw [hrecords]
    exact h.greeted i k clientId body answer' hk hphase'
  case stopped =>
    intro w serial hmem
    rcases h.stopped w serial (hopened hmem) with ⟨k, body, hk, hb, hserial⟩ | hstopped
    · obtain ⟨k', hk', hbody, -⟩ := hforth w k hk
      exact .inl ⟨k', body, hk', hbody.trans hb, hserial⟩
    · refine .inr (hstopped.mono (harrivals serial) (hrecords w serial)
        (List.mem_append_left _) fun k hk => ?_)
      obtain ⟨k', hk', -, hcancelled, hcrashed⟩ := hforth w k hk
      exact ⟨k', hk', hcancelled, hcrashed⟩

theorem StreamInv.callerMove {c' : Core} (h : c.StreamInv) (hmove : CallerMove c c') :
    c'.StreamInv := by
  -- callers change no phase, so that every worker keeps its stream
  have hsame (workers : List Worker)
      (hback : ∀ (i : Nat) (k' : Worker) (body : Body), workers[i]? = some k' →
        k'.phase.body? = some body → ∃ k, c.workers[i]? = some k ∧ k.phase = k'.phase)
      (hforth : ∀ (i : Nat) (k : Worker), c.workers[i]? = some k → ∃ k', workers[i]? = some k' ∧
        k'.phase = k.phase ∧ (k.cancelled = true → k'.cancelled = true)) :
      StreamInv { c with workers, log := c.log ++ [] } := by
    refine h.of_workers (by simp) (fun i k' body hk' hb => ?_) (fun i k hk => ?_)
    · obtain ⟨k, hk, hphase⟩ := hback i k' body hk' hb
      refine ⟨k, hk, by rw [hphase]; exact hb, fun clientId answer hgreeting => ?_⟩
      exact ⟨answer, hphase.trans hgreeting⟩
    · obtain ⟨k', hk', hphase, hcancelled⟩ := hforth i k hk
      exact ⟨k', hk', by rw [hphase], hcancelled, fun hcrashed => hphase.trans hcrashed⟩
  cases hmove with
  | keep => exact h
  | start ended =>
    have hinv := hsame c.start.workers (fun i k' body hk' hb => ?_) fun i k hk => ?_
    · exact hinv.of_eq rfl rfl (List.append_nil _).symm
    · -- the new worker reads no stream
      rw [start, List.getElem?_append] at hk'
      split at hk'
      · exact ⟨k', hk', rfl⟩
      · rw [List.mem_singleton.1 (List.mem_of_getElem? hk')] at hb
        cases hb
    · refine ⟨k, ?_, rfl, id⟩
      rw [start, List.getElem?_append_left (List.getElem?_eq_some_iff.1 hk).1]
      exact hk
  | @retire w occupied =>
    have hinv := hsame (c.retire w).workers (fun i k' body hk' hb => ?_)
      fun i k hk => ?_
    · exact hinv.of_eq rfl rfl (List.append_nil _).symm
    · rw [retire, List.getElem?_modify] at hk'
      obtain ⟨k, hk, rfl⟩ := Option.map_eq_some_iff.1 hk'
      refine ⟨k, hk, ?_⟩
      split <;> rfl
    · rw [retire, List.getElem?_modify, hk]
      refine ⟨_, rfl, ?_, ?_⟩
      · split <;> rfl
      · split
        · exact fun _ => rfl
        · exact id
  | idle vacant => exact h.of_eq rfl rfl rfl

end Steady

/-! ### What arrives -/

section Outside

variable {c : Core}

/-- A stream that is read has been opened by its reader. -/
theorem StreamInv.exists_reader (h : c.StreamInv) {serial : Nat}
    (isRead : ∃ k ∈ c.workers, k.reads serial = true) :
    ∃ w k body, c.workers[w]? = some k ∧ k.reads serial = true ∧ k.phase.body? = some body ∧
      body.serial = serial ∧ Event.opened w serial ∈ c.log := by
  obtain ⟨k, hmem, hreads⟩ := isRead
  obtain ⟨w, hk⟩ := List.mem_iff_getElem?.1 hmem
  obtain ⟨body, hb, hserial⟩ := exists_body_of_reads hreads
  exact ⟨w, k, body, hk, hreads, hb, hserial, hserial ▸ h.owner w k body hk hb⟩

/-- The streams of the workers after something has happened to one that is read. -/
theorem StreamInv.body?_of_feed (h : c.StreamInv) {serial : Nat}
    (isRead : ∃ k ∈ c.workers, k.reads serial = true) {f : Body → Body} {i : Nat} {k' : Worker}
    {body' : Body} (hk' : (Core.feed c.workers serial f)[i]? = some k')
    (hb' : k'.phase.body? = some body') :
    ∃ k body, c.workers[i]? = some k ∧ k.phase.body? = some body ∧
      ((body.serial = serial ∧ body' = f body ∧ k'.phase = k.phase.mapBody f) ∨
        (body.serial ≠ serial ∧ body' = body ∧ k'.phase = k.phase)) := by
  obtain ⟨k, hk, ⟨hreads, rfl⟩ | ⟨hnot, rfl⟩⟩ := getElem?_of_feed hk'
  · obtain ⟨body, hb, rfl⟩ := Option.map_eq_some_iff.1 (body?_mapBody f k.phase ▸ hb')
    obtain ⟨body₀, hb₀, hserial⟩ := exists_body_of_reads hreads
    cases hb.symm.trans hb₀
    exact ⟨k, body, hk, hb, .inl ⟨hserial, rfl, rfl⟩⟩
  · refine ⟨k', body', hk, hb', .inr ⟨fun heq => ?_, rfl, rfl⟩⟩
    -- a worker with the stream would be the one that reads it
    obtain ⟨i₀, k₀, -, hk₀, hreads₀, -, -, hopened₀⟩ := h.exists_reader isRead
    have hi : i = i₀ := h.unique i i₀ serial (heq ▸ h.owner i k' body' hk hb') hopened₀
    rw [hi, hk₀] at hk
    cases hk
    rw [hreads₀] at hnot
    cases hnot

/-- A stream that is read is still read after something has happened to one. -/
theorem isRead_feed {serial n w : Nat} {f : Body → Body}
    (hserial : ∀ body, (f body).serial = body.serial) (h : IsRead c.workers w n) :
    IsRead (Core.feed c.workers serial f) w n := by
  obtain ⟨k, body, hk, hb, hn⟩ := h
  refine ⟨_, if k.reads serial then f body else body, getElem?_feed hk, ?_, ?_⟩
  · split
    · rw [body?_mapBody, hb]
      rfl
    · exact hb
  · split
    · exact (hserial body).trans hn
    · exact hn

/-- Something happens to a stream that is read, and to the body that its reader has of it. -/
theorem StreamInv.feed (h : c.StreamInv) {serial : Nat}
    (isRead : ∃ k ∈ c.workers, k.reads serial = true) {f : Body → Body} {event : Event}
    (hserial : ∀ body, (f body).serial = body.serial)
    (hstream : event.stream? = some serial) (hopened : ∀ w n, event ≠ .opened w n)
    (hread : ∀ w n, event.readBy? w n = none)
    (hfollows : ∀ body records, body.records.Follows (arrivals serial c.log) records →
      (f body).records.Follows (arrivals serial (c.log ++ [event])) records)
    (hended : ∀ body, (f body).ended = true → body.ended = true ∨ event = .ended serial) :
    StreamInv
      { c with workers := Core.feed c.workers serial f, log := c.log ++ [event] } := by
  -- the event opens and reads nothing, and concerns one stream only
  have hlog : ∀ {w n}, Event.opened w n ∈ c.log ++ [event] → Event.opened w n ∈ c.log := by
    intro w n hmem
    rcases List.mem_append.1 hmem with hold | hnew
    · exact hold
    · exact absurd (List.mem_singleton.1 hnew).symm (hopened w n)
  have hrecords : ∀ w n, recordsRead w n (c.log ++ [event]) = recordsRead w n c.log := by
    intro w n
    have hnone : recordsRead w n [event] = [] := recordsRead_eq_nil (by simpa using hread w n)
    rw [recordsRead_append, hnone, List.append_nil]
  have harrivals : ∀ n, n ≠ serial → arrivals n (c.log ++ [event]) = arrivals n c.log := by
    intro n hn
    have hnone : ∀ event' ∈ [event], event'.stream? ≠ some n := by
      intro event' hevent'
      rw [List.mem_singleton.1 hevent', hstream]
      exact fun heq => hn (Option.some.inj heq).symm
    exact arrivals_append_of_stream hnone
  obtain ⟨i₀, k₀, body₀, hk₀, -, hb₀, hserial₀, howner₀⟩ := h.exists_reader isRead
  have hback {i : Nat} {k' : Worker} {body' : Body}
      (hk' : (Core.feed c.workers serial f)[i]? = some k') (hb' : k'.phase.body? = some body') :=
    h.body?_of_feed isRead hk' hb'
  constructor
  case fresh =>
    intro event' hevent n hn
    rcases List.mem_append.1 hevent with hold | hnew
    · exact h.fresh event' hold n hn
    · rw [List.mem_singleton.1 hnew, hstream] at hn
      rw [← Option.some.inj hn]
      exact h.fresh _ howner₀ serial rfl
  case unique =>
    intro w w' n hw hw'
    exact h.unique w w' n (hlog hw) (hlog hw')
  case owner =>
    intro i k' body' hk' hb'
    obtain ⟨k, body, hk, hb, ⟨-, rfl, -⟩ | ⟨-, rfl, -⟩⟩ := hback hk' hb'
    · rw [hserial]
      exact List.mem_append_left _ (h.owner i k body hk hb)
    · exact List.mem_append_left _ (h.owner i k body' hk hb)
  case follows =>
    intro i k' body' hk' hb'
    obtain ⟨k, body, hk, hb, ⟨heq, rfl, -⟩ | ⟨hne, rfl, -⟩⟩ := hback hk' hb'
    · rw [hserial, hrecords, heq]
      refine hfollows body _ ?_
      rw [← heq]
      exact h.follows i k body hk hb
    · rw [harrivals _ hne, hrecords]
      exact h.follows i k body' hk hb
  case ended =>
    intro i k' body' hk' hb' hend
    obtain ⟨k, body, hk, hb, ⟨heq, rfl, -⟩ | ⟨-, rfl, -⟩⟩ := hback hk' hb'
    · rw [hserial]
      rcases hended body hend with hold | hnew
      · exact List.mem_append_left _ (h.ended i k body hk hb hold)
      · rw [heq, hnew]
        exact List.mem_append_right _ (List.mem_singleton_self _)
    · exact List.mem_append_left _ (h.ended i k body' hk hb hend)
  case greeted =>
    intro i k' clientId body' answer hk' hphase
    obtain ⟨k, body, hk, hb, ⟨-, rfl, hsame⟩ | ⟨-, rfl, hsame⟩⟩ :=
      hback hk' (by rw [hphase]; rfl)
    · rw [hserial, hrecords]
      cases hold : k.phase <;> rw [hold] at hb hsame <;> cases hb
      · cases hsame.symm.trans hphase
      · cases hsame.symm.trans hphase
        exact h.greeted i k clientId body answer hk hold
    · rw [hrecords]
      exact h.greeted i k clientId body' answer hk (hsame.symm.trans hphase)
  case stopped =>
    intro w n hmem
    rcases h.stopped w n (hlog hmem) with hisRead | hstopped
    · exact .inl (isRead_feed hserial hisRead)
    · by_cases hn : n = serial
      · -- the stream is read, by the only worker that has opened it
        left
        have hw : w = i₀ := h.unique w i₀ serial (hn ▸ hlog hmem) howner₀
        rw [hw, hn]
        exact isRead_feed hserial ⟨k₀, body₀, hk₀, hb₀, hserial₀⟩
      · refine .inr (hstopped.mono (harrivals n hn) (hrecords w n) (List.mem_append_left _) ?_)
        intro k hk
        refine ⟨_, getElem?_feed hk, fun hcancelled => ?_, fun hcrashed => ?_⟩
        · split <;> exact hcancelled
        · split
          · rw [hcrashed]
            rfl
          · exact hcrashed

theorem StreamInv.supply {c' : Core} (h : c.StreamInv) (hsupply : Supply c c') :
    c'.StreamInv := by
  cases hsupply with
  | answer w answer =>
    refine h.of_workers (by simp [Event.stream?]) (fun i k' body hk' hb => ?_) (fun i k hk => ?_)
    · rw [List.getElem?_modify] at hk'
      obtain ⟨k, hk, rfl⟩ := Option.map_eq_some_iff.1 hk'
      by_cases hw : w = i
      · simp only [if_pos hw] at hb ⊢
        refine ⟨k, hk, body?_withAnswer answer k.phase ▸ hb, fun clientId answer' hphase => ?_⟩
        cases hold : k.phase <;> rw [hold] at hphase <;> cases hphase
        exact ⟨_, rfl⟩
      · simp only [if_neg hw] at hb ⊢
        exact ⟨k, hk, hb, fun clientId answer' hphase => ⟨answer', hphase⟩⟩
    · rw [List.getElem?_modify, hk]
      refine ⟨_, rfl, ?_⟩
      by_cases hw : w = i
      · simp only [if_pos hw]
        refine ⟨body?_withAnswer answer k.phase, id, fun hcrashed => ?_⟩
        rw [hcrashed]
        rfl
      · simp only [if_neg hw]
        exact ⟨trivial, id, id⟩
  | arrive serial item isRead =>
    have hitem : arrivals serial [.arrived serial item] = [item] := by
      simp [arrivals, Event.arrivedAt?]
    refine h.feed isRead (fun _ => rfl) rfl (fun _ _ heq => by cases heq) (fun _ _ => rfl)
      (fun body records hfollows => ?_) (fun body hend => .inl hend)
    rw [arrivals_append, hitem]
    exact hfollows.arrive item
  | finish serial isRead =>
    have hnone : arrivals serial [.ended serial] = [] := rfl
    refine h.feed isRead (fun _ => rfl) rfl (fun _ _ heq => by cases heq) (fun _ _ => rfl)
      (fun body records hfollows => ?_) (fun body _ => .inr rfl)
    rw [arrivals_append, hnone, List.append_nil]
    exact hfollows

end Outside

/-! ### What workers do -/

section Workers

variable {c : Core}

/-- A stopped stream stays stopped while a worker that has not ended goes on with another. -/
theorem stopped_setPhase {i serial : Nat} (h : Stopped c.workers c.log i serial) {w : Nat}
    {k : Worker} (hk : c.workers[w]? = some k) (hover : k.phase.isOver = false)
    (phase : Worker.Phase) {more : List Event}
    (harrivals : arrivals serial (c.log ++ more) = arrivals serial c.log)
    (hrecords : recordsRead i serial (c.log ++ more) = recordsRead i serial c.log) :
    Stopped (c.setPhase w phase).workers (c.log ++ more) i serial := by
  refine h.mono harrivals hrecords (List.mem_append_left _) fun k' hk' => ?_
  by_cases hw : w = i
  · subst hw
    cases hk.symm.trans hk'
    -- the worker has not crashed, and its order to end stands
    refine ⟨_, getElem?_setPhase_self hk phase, id, fun hcrashed => ?_⟩
    rw [hcrashed] at hover
    cases hover
  · exact ⟨k', (getElem?_setPhase_of_ne hw phase).trans hk', id, id⟩

/-- A worker goes on with its stream, or stops reading it. -/
theorem StreamInv.setPhase (h : c.StreamInv) {w : Nat} {k : Worker}
    (hk : c.workers[w]? = some k) (hover : k.phase.isOver = false) {phase : Worker.Phase}
    {more : List Event}
    (hmore : ∀ event ∈ more, event.stream? = none ∨ ∃ body record,
      k.phase.body? = some body ∧ event = .read w body.serial record)
    (hbody : ∀ body, phase.body? = some body → ∃ body', k.phase.body? = some body' ∧
      body.serial = body'.serial ∧ body.ended = body'.ended ∧
      body.records.Follows (arrivals body.serial c.log)
        (recordsRead w body.serial (c.log ++ more)))
    (hgreeting : ∀ clientId body answer, phase = .greeting clientId body answer →
      ∃ record, (recordsRead w body.serial (c.log ++ more)).getLast? = some record ∧
        record.handshake? = some clientId)
    (hstop : ∀ body, k.phase.body? = some body → phase.body? = none →
      Stopped (c.setPhase w phase).workers (c.log ++ more) w body.serial) :
    StreamInv { c.setPhase w phase with log := c.log ++ more } := by
  have harrivals : ∀ serial, arrivals serial (c.log ++ more) = arrivals serial c.log := by
    intro serial
    have hnone : arrivals serial more = [] := by
      refine List.filterMap_eq_nil_iff.2 fun event hevent => ?_
      rcases hmore event hevent with hnot | ⟨body, record, -, rfl⟩
      · cases event <;> first | rfl | cases hnot
      · rfl
    rw [arrivals_append, hnone, List.append_nil]
  -- only the stream of the worker is read from
  have hrecords : ∀ i serial, (i = w → ∀ body, k.phase.body? = some body → body.serial ≠ serial) →
      recordsRead i serial (c.log ++ more) = recordsRead i serial c.log := by
    intro i serial hne
    have hnone : recordsRead i serial more = [] := by
      refine recordsRead_eq_nil fun event hevent => ?_
      rcases hmore event hevent with hnot | ⟨body, record, hb, rfl⟩
      · cases event <;> first | rfl | cases hnot
      · exact if_neg fun hboth => hne hboth.1.symm body hb hboth.2
    rw [recordsRead_append, hnone, List.append_nil]
  have hopened : ∀ {i serial}, Event.opened i serial ∈ c.log ++ more →
      Event.opened i serial ∈ c.log := by
    intro i serial hmem
    rcases List.mem_append.1 hmem with hold | hnew
    · exact hold
    · rcases hmore _ hnew with hnot | ⟨body, record, -, heq⟩
      · cases hnot
      · cases heq
  constructor
  case fresh =>
    intro event hevent serial hserial
    rcases List.mem_append.1 hevent with hold | hnew
    · exact h.fresh event hold serial hserial
    · rcases hmore event hnew with hnot | ⟨body, record, hb, rfl⟩
      · rw [hnot] at hserial
        cases hserial
      · cases hserial
        exact h.fresh _ (h.owner w k body hk hb) body.serial rfl
  case unique =>
    intro i i' serial hi hi'
    exact h.unique i i' serial (hopened hi) (hopened hi')
  case owner =>
    intro i k' body hk' hb
    rcases getElem?_of_setPhase hk' with ⟨rfl, hp, -⟩ | ⟨hne, hold⟩
    · obtain ⟨body', hb', hserial, -⟩ := hbody body (hp ▸ hb)
      rw [hserial]
      exact List.mem_append_left _ (h.owner w k body' hk hb')
    · exact List.mem_append_left _ (h.owner i k' body hold hb)
  case follows =>
    intro i k' body hk' hb
    rcases getElem?_of_setPhase hk' with ⟨rfl, hp, -⟩ | ⟨hne, hold⟩
    · obtain ⟨body', -, -, -, hfollows⟩ := hbody body (hp ▸ hb)
      rw [harrivals]
      exact hfollows
    · rw [harrivals, hrecords i _ fun heq => absurd heq.symm hne]
      exact h.follows i k' body hold hb
  case ended =>
    intro i k' body hk' hb hended
    rcases getElem?_of_setPhase hk' with ⟨rfl, hp, -⟩ | ⟨hne, hold⟩
    · obtain ⟨body', hb', hserial, hend, -⟩ := hbody body (hp ▸ hb)
      rw [hserial]
      exact List.mem_append_left _ (h.ended w k body' hk hb' (hend ▸ hended))
    · exact List.mem_append_left _ (h.ended i k' body hold hb hended)
  case greeted =>
    intro i k' clientId body answer hk' hphase
    rcases getElem?_of_setPhase hk' with ⟨rfl, hp, -⟩ | ⟨hne, hold⟩
    · exact hgreeting clientId body answer (hp ▸ hphase)
    · rw [hrecords i _ fun heq => absurd heq.symm hne]
      exact h.greeted i k' clientId body answer hold hphase
  case stopped =>
    intro i serial hmem
    have hnew := getElem?_setPhase_self hk phase
    -- either the stream is the one that the worker has had, or nothing happens to it
    by_cases hcurrent : i = w ∧ ∃ body, k.phase.body? = some body ∧ body.serial = serial
    · obtain ⟨rfl, body, hb, rfl⟩ := hcurrent
      cases hp : phase.body? with
      | none => exact .inr (hstop body hb hp)
      | some body' =>
        obtain ⟨body'', hb'', hserial, -⟩ := hbody body' hp
        cases hb.symm.trans hb''
        exact .inl ⟨{ k with phase }, body', hnew, hp, hserial⟩
    · have hother : recordsRead i serial (c.log ++ more) = recordsRead i serial c.log :=
        hrecords i serial fun heq body hb hserial => hcurrent ⟨heq, body, hb, hserial⟩
      rcases h.stopped i serial (hopened hmem) with ⟨k', body, hk', hb, hserial⟩ | hstopped
      · have hne : w ≠ i := by
          rintro rfl
          cases hk.symm.trans hk'
          exact hcurrent ⟨rfl, body, hb, hserial⟩
        exact .inl ⟨k', body, (getElem?_setPhase_of_ne hne phase).trans hk', hb, hserial⟩
      · exact .inr (stopped_setPhase hstopped hk hover phase (harrivals serial) hother)

/-- A worker begins to read a stream. -/
theorem StreamInv.open (h : c.StreamInv) {w : Nat} {k : Worker} (hk : c.workers[w]? = some k)
    (hover : k.phase.isOver = false) (hbody : k.phase.body? = none) :
    StreamInv
      { c.setPhase w (.reading (.fresh c.streams)) with
        streams := c.streams + 1
        log := c.log ++ [.opened w c.streams] } := by
  -- the new stream has no history
  have hfresh : ∀ event ∈ c.log, event.stream? ≠ some c.streams := fun event hevent heq =>
    absurd (h.fresh event hevent c.streams heq) (Nat.lt_irrefl _)
  have harrivals : ∀ serial, arrivals serial (c.log ++ [.opened w c.streams]) =
      arrivals serial c.log := by
    intro serial
    rw [arrivals_append]
    exact List.append_nil _
  have hrecords : ∀ i serial, recordsRead i serial (c.log ++ [.opened w c.streams]) =
      recordsRead i serial c.log := by
    intro i serial
    rw [recordsRead_append]
    exact List.append_nil _
  have hopened : ∀ {i serial}, Event.opened i serial ∈ c.log ++ [.opened w c.streams] →
      Event.opened i serial ∈ c.log ∨ (i = w ∧ serial = c.streams) := by
    intro i serial hmem
    rcases List.mem_append.1 hmem with hold | hnew
    · exact .inl hold
    · cases List.mem_singleton.1 hnew
      exact .inr ⟨rfl, rfl⟩
  have hne : ∀ {i}, Event.opened i c.streams ∉ c.log := fun {i} hmem => hfresh _ hmem rfl
  constructor
  case fresh =>
    intro event hevent serial hserial
    rcases List.mem_append.1 hevent with hold | hnew
    · exact Nat.lt_succ_of_lt (h.fresh event hold serial hserial)
    · rw [List.mem_singleton.1 hnew] at hserial
      cases hserial
      exact Nat.lt_succ_self _
  case unique =>
    intro i i' serial hi hi'
    rcases hopened hi with hold | ⟨rfl, rfl⟩ <;> rcases hopened hi' with hold' | ⟨rfl, heq⟩
    · exact h.unique i i' serial hold hold'
    · exact absurd (heq ▸ hold) hne
    · exact absurd hold' hne
    · rfl
  case owner =>
    intro i k' body hk' hb
    rcases getElem?_of_setPhase hk' with ⟨rfl, hp, -⟩ | ⟨-, hold⟩
    · rw [hp] at hb
      cases hb
      exact List.mem_append_right _ (List.mem_singleton_self _)
    · exact List.mem_append_left _ (h.owner i k' body hold hb)
  case follows =>
    intro i k' body hk' hb
    rw [harrivals, hrecords]
    rcases getElem?_of_setPhase hk' with ⟨rfl, hp, -⟩ | ⟨-, hold⟩
    · rw [hp] at hb
      cases hb
      change (RecordStream.ofInput []).Follows (arrivals c.streams c.log)
        (recordsRead w c.streams c.log)
      rw [arrivals_eq_nil hfresh, recordsRead_eq_nil_of_stream hfresh]
      exact RecordStream.follows_fresh
    · exact h.follows i k' body hold hb
  case ended =>
    intro i k' body hk' hb hended
    rcases getElem?_of_setPhase hk' with ⟨rfl, hp, -⟩ | ⟨-, hold⟩
    · rw [hp] at hb
      cases hb
      cases hended
    · exact List.mem_append_left _ (h.ended i k' body hold hb hended)
  case greeted =>
    intro i k' clientId body answer hk' hphase
    rw [hrecords]
    rcases getElem?_of_setPhase hk' with ⟨rfl, hp, -⟩ | ⟨-, hold⟩
    · cases hp.symm.trans hphase
    · exact h.greeted i k' clientId body answer hold hphase
  case stopped =>
    intro i serial hmem
    rcases hopened hmem with hold | ⟨rfl, rfl⟩
    · rcases h.stopped i serial hold with ⟨k', body, hk', hb, hserial⟩ | hstopped
      · have hi : w ≠ i := by
          rintro rfl
          cases hk.symm.trans hk'
          rw [hbody] at hb
          cases hb
        exact .inl ⟨k', body, (getElem?_setPhase_of_ne hi _).trans hk', hb, hserial⟩
      · exact .inr (stopped_setPhase hstopped hk hover _ (harrivals serial) (hrecords i serial))
    · exact .inl ⟨_, _, getElem?_setPhase_self hk _, rfl, rfl⟩

/-- A worker does something without a stream, after which it has none; the reading of the one that
it has had, if any, has stopped. -/
theorem StreamInv.leave (h : c.StreamInv) {w : Nat} {k : Worker} (hk : c.workers[w]? = some k)
    (hover : k.phase.isOver = false) {phase : Worker.Phase} (hbody : phase.body? = none)
    {more : List Event} (hmore : ∀ event ∈ more, event.stream? = none)
    (hstop : ∀ body, k.phase.body? = some body →
      Stopped (c.setPhase w phase).workers (c.log ++ more) w body.serial) :
    StreamInv { c.setPhase w phase with log := c.log ++ more } := by
  refine h.setPhase hk hover (fun event hevent => .inl (hmore event hevent)) (fun body hb => ?_)
    (fun clientId body answer hphase => ?_) (fun body hb _ => hstop body hb)
  · rw [hbody] at hb
    cases hb
  · rw [hphase] at hbody
    cases hbody

/-- A worker that reads a stream goes on with it without reading a record. -/
theorem StreamInv.keep (h : c.StreamInv) {w : Nat} {k : Worker} (hk : c.workers[w]? = some k)
    (hover : k.phase.isOver = false) {body : Body} (hbody : k.phase.body? = some body)
    {records : RecordStream ClientError}
    (hrecords : ∀ items read, body.records.Follows items read → records.Follows items read)
    {more : List Event} (hmore : ∀ event ∈ more, event.stream? = none) :
    StreamInv
      { c.setPhase w (.reading { body with records }) with log := c.log ++ more } := by
  refine h.setPhase hk hover (fun event hevent => .inl (hmore event hevent)) (fun body' hb => ?_)
    (fun _ _ _ => nofun) (fun _ _ => nofun)
  cases hb
  refine ⟨body, hbody, rfl, rfl, ?_⟩
  have hnot : ∀ event ∈ more, event.stream? ≠ some body.serial := by
    intro event hevent
    rw [hmore event hevent]
    exact nofun
  rw [recordsRead_append_of_stream hnot]
  exact hrecords _ _ (h.follows w k body hk hbody)

theorem StreamInv.read (h : c.StreamInv) {w : Nat} {k : Worker} (hk : c.workers[w]? = some k)
    {body : Body} (hphase : k.phase = .reading body) {record : Record}
    {after : RecordStream ClientError}
    (hnext : body.records.advance = .yields (.ok record) after) {phase : Worker.Phase}
    (hbody : phase.body? = some { body with records := after })
    (hgreeting : ∀ clientId body' answer, phase = .greeting clientId body' answer →
      record.handshake? = some clientId)
    {more : List Event} (hmore : ∀ event ∈ more, event.stream? = none) :
    StreamInv { c.setPhase w phase with log := c.log ++ .read w body.serial record :: more } := by
  have hold : k.phase.body? = some body := by
    rw [hphase]
    rfl
  have hread : recordsRead w body.serial (c.log ++ .read w body.serial record :: more) =
      recordsRead w body.serial c.log ++ [record] := by
    refine recordsRead_read fun event hevent => readBy?_of_stream ?_
    rw [hmore event hevent]
    exact nofun
  refine h.setPhase hk (by rw [hphase]; rfl) (fun event hevent => ?_) (fun body' hb => ?_)
    (fun clientId body' answer hp => ?_) (fun _ _ hnone => ?_)
  · rcases List.mem_cons.1 hevent with rfl | hmem
    · exact .inr ⟨body, record, hold, rfl⟩
    · exact .inl (hmore event hmem)
  · cases hbody.symm.trans hb
    refine ⟨body, hold, rfl, rfl, ?_⟩
    rw [hread]
    exact (h.follows w k body hk hold).yields hnext
  · have hserial : body' = { body with records := after } := by
      rw [hp] at hbody
      exact Option.some.inj hbody
    refine ⟨record, ?_, hgreeting clientId body' answer hp⟩
    rw [hserial, hread, List.getLast?_concat]
  · rw [hbody] at hnone
    cases hnone

/-- A worker that ends its attempt has read the stream up to an error or to the end. -/
theorem stopped_of_lose {w : Nat} {k : Worker} {body : Body}
    (hfollows : body.records.Follows (arrivals body.serial c.log)
      (recordsRead w body.serial c.log))
    (hended : body.ended = true → Event.ended body.serial ∈ c.log)
    (hbody : k.phase.body? = some body)
    (hphase : (∃ error, k.phase = .opening (some (.failure error))) ∨
      ∃ body, k.phase = .reading body ∧
        ((∃ error after, body.records.advance = .yields (.error error) after) ∨
          body.records.advance = .starves ∧ body.ended = true)) :
    Stopped c.workers c.log w body.serial := by
  rcases hphase with ⟨error, hphase⟩ | ⟨body', hphase, hnext⟩
  · rw [hphase] at hbody
    cases hbody
  · rw [hphase] at hbody
    cases hbody
    have hdecoded := hfollows.decoded
    rcases hnext with ⟨error, after, hnext⟩ | ⟨hnext, hend⟩
    · rw [RecordStream.toList_of_yields hnext] at hdecoded
      exact .failed hdecoded
    · rw [RecordStream.toList_of_starves hnext, List.append_nil] at hdecoded
      exact .ended (hended hend) hdecoded

theorem StreamInv.workerStep {c' : Core} {w : Nat} {k : Worker} (h : c.StreamInv)
    (hk : c.workers[w]? = some k) (hover : k.phase.isOver = false)
    (hstep : WorkerStep c w k c') : c'.StreamInv := by
  have hnew := getElem?_setPhase_self hk
  -- a step drops the stream of the worker (`leave`), opens one (`open`), goes on with it (`keep`)
  -- or reads a record from it (`read`); what else it does does not concern streams (`of_eq`)
  cases hstep with
  | finish cancelled =>
    have hafter : StreamInv { c.setPhase w .finished with log := c.log ++ [] } := by
      refine h.leave hk hover rfl (by simp) fun body hb => ?_
      rw [List.append_nil]
      exact .retired (hnew .finished) cancelled (h.follows w k body hk hb).decoded
    exact hafter.of_eq rfl rfl (List.append_nil _).symm
  | attempt live phase headers =>
    have hafter : StreamInv
        { c.setPhase w (.opening none) with log := c.log ++ [.requested w headers] } := by
      refine h.leave hk hover rfl (by simp [Event.stream?]) fun body hb => ?_
      rw [phase] at hb
      cases hb
    exact hafter.of_eq rfl rfl rfl
  | read live phase =>
    have hafter := h.open hk hover (by rw [phase]; rfl)
    exact hafter.of_eq rfl rfl rfl
  | lose live phase resumes told =>
    have hmore : ∀ event ∈ told.map fun t => Event.lost w t.1 t.2, event.stream? = none :=
      List.forall_mem_map.2 fun _ _ => rfl
    have hafter : StreamInv { c.setPhase w (.pausing resumes) with
        log := c.log ++ told.map fun t => .lost w t.1 t.2 } := by
      refine h.leave hk hover rfl hmore fun body hb => ?_
      have hsteady := stopped_of_lose (h.follows w k body hk hb) (h.ended w k body hk hb) hb phase
      have hnot : ∀ event ∈ told.map fun t => Event.lost w t.1 t.2,
          event.stream? ≠ some body.serial := by
        intro event hevent
        rw [hmore event hevent]
        exact nofun
      exact stopped_setPhase hsteady hk hover _ (arrivals_append_of_stream hnot)
        (recordsRead_append_of_stream hnot)
    exact hafter.of_eq rfl rfl rfl
  | crash live phase =>
    have hafter : StreamInv { c.setPhase w .crashed with log := c.log ++ [] } := by
      refine h.leave hk hover rfl (by simp) fun body hb => ?_
      rw [List.append_nil]
      rcases phase with hphase | ⟨clientId, body', hphase⟩
      · rw [hphase] at hb
        cases hb
      · -- the greeting that is being announced is the last record read
        obtain ⟨record, hlast, hgreeting⟩ := h.greeted w k clientId body' _ hk hphase
        rw [hphase] at hb
        cases hb
        refine .crashed (hnew .crashed) rfl hlast (by rw [hgreeting]; rfl)
          (h.follows w k body hk ?_).decoded
        rw [hphase]
        rfl
    exact hafter.of_eq rfl rfl (List.append_nil _).symm
  | @take live body phase after next =>
    have hafter : StreamInv
        { c.setPhase w (.reading { body with records := after }) with log := c.log ++ [] } := by
      refine h.keep hk hover (by rw [phase]; rfl) (fun items read hfollows => ?_) (by simp)
      exact hfollows.takes next
    exact hafter.of_eq rfl rfl (List.append_nil _).symm
  | deliver live phase next plain calls =>
    refine h.read hk phase next rfl (fun clientId body answer hp => ?_) ?_
    · cases hp
    · exact List.forall_mem_map.2 fun _ _ => rfl
  | @announce live body phase record after next clientId greeting topics =>
    have hafter : StreamInv
        { c.setPhase w (.greeting clientId { body with records := after } none) with
          log := c.log ++
            [.read w body.serial record, .announced (.worker w) clientId topics] } := by
      refine h.read hk phase next rfl (fun clientId body answer hp => ?_) ?_
      · cases hp
        exact greeting
      · simp [Event.stream?]
    exact hafter.of_eq rfl rfl rfl
  | @establish live body phase record after next clientId greeting told =>
    have hafter : StreamInv
        { c.setPhase w (.reading { body with records := after }) with
          log := c.log ++
            .read w body.serial record :: told.map fun o => .connected w o clientId } := by
      refine h.read hk phase next rfl (fun clientId body answer hp => ?_) ?_
      · cases hp
      · exact List.forall_mem_map.2 fun _ _ => rfl
    exact hafter.of_eq rfl rfl rfl
  | @greet live clientId body answer phase told =>
    refine h.keep hk hover (by rw [phase]; rfl) (fun items read hfollows => hfollows) ?_
    exact List.forall_mem_map.2 fun _ _ => rfl

end Workers

end Core

/-! ### Reachable states -/

/-- In every reachable state the streams that are read are those of what has arrived, and it is
known why the reading of others has stopped. -/
theorem streamInv_of_reachable {settings : Settings} {credential : Option String} {e : Engine}
    (he : Reachable settings credential e) : e.core.StreamInv := by
  induction he with
  | initial =>
    -- there are no workers yet, and nothing has happened
    constructor
    case fresh =>
      intro event hevent
      cases hevent
    case unique =>
      intro w w' serial hw
      cases hw
    case owner =>
      intro i k body hk
      cases hk
    case follows =>
      intro i k body hk
      cases hk
    case ended =>
      intro i k body hk
      cases hk
    case greeted =>
      intro i k clientId body answer hk
      cases hk
    case stopped =>
      intro w serial hmem
      cases hmem
  | step action before happens ih =>
    rcases coreStep_of_step (slotInv_of_reachable before) happens with
      hmove | hsupply | ⟨w, k, hk, hover, hstep⟩
    · exact ih.callerMove hmove
    · exact ih.supply hsupply
    · exact ih.workerStep hk hover hstep

/-- Every stream that was ever opened is being read, with nothing left out so far, or has been read
up to an error, to its end, or to the end of its worker. -/
theorem course_of_reachable {settings : Settings} {credential : Option String} {e : Engine}
    (he : Reachable settings credential e) {w serial : Nat}
    (hopened : Event.opened w serial ∈ e.events) : Course e.workers e.events w serial := by
  have hinv := streamInv_of_reachable he
  have harrivals : arrivals serial e.events = arrivals serial e.core.log := (arrivals_core e).symm
  have hrecords : recordsRead w serial e.events = recordsRead w serial e.core.log :=
    (recordsRead_core e).symm
  rcases hinv.stopped w serial ((mem_core_log rfl).2 hopened) with
    ⟨k, body, hk, hb, hserial⟩ | hstop
  · refine .underway hk hb hserial ?_
    rw [harrivals, hrecords, ← hserial]
    exact (hinv.follows w k body hk hb).decoded
  · exact .stopped (hstop.mono harrivals hrecords (mem_core_log rfl).1
      fun k hk => ⟨k, hk, id, id⟩)

/-- A worker that cannot read on has nothing left to read. -/
theorem starves_of_readOn {e : Engine} {w epoch : Nat} {body : Body}
    (h : e.readOn w epoch body = none) : body.records.advance = .starves := by
  unfold readOn at h
  split at h
  · cases h
  · cases h
  · cases h
  · assumption

/-- Where nothing can go on, a worker that is reading a stream has read all that has arrived. -/
theorem caught_up_of_quiescent {settings : Settings} {credential : Option String} {e : Engine}
    (he : Reachable settings credential e) (hquiescent : Quiescent e) {w : Nat} {k : Worker}
    {body : Body} (hk : e.workers[w]? = some k) (hphase : k.phase = .reading body) :
    decodeAll (arrivals body.serial e.events) = (recordsRead w body.serial e.events).map .ok := by
  have hfollows := ((streamInv_of_reachable he).follows w k body hk (by rw [hphase]; rfl)).decoded
  have hstep : e.resumeWorker w = none := hquiescent (.worker w) true
  have hwaits : e.readOn w k.epoch body = none := by
    unfold resumeWorker at hstep
    simp only [hk, hphase] at hstep
    split at hstep
    · rename_i hover
      cases hover
    · split at hstep
      · cases hstep
      · exact hstep
  -- so nothing is left of what has arrived
  have hstarves := starves_of_readOn hwaits
  rw [arrivals_core, recordsRead_core, RecordStream.toList_of_starves hstarves,
    List.append_nil] at hfollows
  exact hfollows

end TopicStream.Engine
