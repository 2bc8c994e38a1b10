import Mathlib.Data.List.Chain
import TopicStream.Proofs.Engine.Notes
import TopicStream.Proofs.Engine.Run

/-!
# The attempts of a worker

What concerns a worker in the trace is a sequence of attempts. An attempt asks for a stream once; if
it gets one, it deals with the records of the stream one after the other; and it ends with the loss
of its stream, unless the worker is given up or crashes before.

An attempt is described by its *moments*, the states right after the steps of the worker. `entries`
says what an attempt leaves in the trace, and `Sound` what holds at its moments. The steps that the
worker takes are a parameter of the latter.
-/

namespace TopicStream.Engine

open Subscription

/-! ### Moments -/

section Moments

variable (m : Engine) (w : Nat)

/-- The request for a stream. -/
def asking : Entry := ⟨m.now, .requested w m.streamHeaders⟩

/-- The listeners that are called with a record, in order of registration. -/
def callings (record : TopicStream.Event.Record) : List Entry :=
  (m.registry.entries record.event).map fun (id, listener) =>
    ⟨m.now, .delivered w id listener (record.payload.getD .null)⟩

/-- The observers that are told of a greeting: all that there are, each once. -/
def tellings (clientId : String) : List Entry :=
  m.onConnect.map fun o => ⟨m.now, .connected w o clientId⟩

/-- The observers that are told of the loss of a stream, with the active topics: all that there are,
each once. -/
def losses : List Entry :=
  m.onDisconnect.map fun o => ⟨m.now, .lost w o m.registry.activeTopics⟩

/-- The session of a worker is ready with a client id. -/
structure Greets (clientId : String) : Prop where
  /-- The session has the client id and is ready. -/
  session : m.session = ⟨clientId, true⟩
  /-- The flag says so. -/
  ready : m.ready = true
  /-- The worker is the current one. -/
  slot : m.slot = some w

/-- A worker has lost its stream and is about to pause. -/
structure Drops : Prop where
  /-- The session has been reset. -/
  session : m.session = .none
  /-- The flag says so. -/
  ready : m.ready = false
  /-- The connection is about to be made again. -/
  connection : m.connection = .reconnecting
  /-- The worker is the current one. -/
  slot : m.slot = some w

/-- The stream that a worker reads yields an error next or has ended. -/
def Breaks (serial : Nat) : Prop :=
  ∃ k body, m.workers[w]? = some k ∧ k.phase = .reading body ∧ body.serial = serial ∧
    ((∃ error after, body.records.advance = .yields (.error error) after) ∨
      body.records.advance = .starves ∧ body.ended = true)

/-- A worker comes to a moment by a step of its own, and what has concerned it up to then is as
given. -/
structure Comes (takes : Engine → Engine → Prop) (entries : List Entry) : Prop where
  /-- The step leads to the moment. -/
  step : ∃ m₀, takes m₀ m
  /-- What has concerned the worker. -/
  entriesOf : m.entriesOf (.worker w) = entries

end Moments

/-! ### Attempts -/

/-- A greeting that has been read and announced. -/
structure Greeting where
  /-- The moment of the announcement. -/
  sent : Engine
  /-- The record that has been read. -/
  record : TopicStream.Event.Record
  /-- The client id. -/
  clientId : String

/-- A record that a worker has dealt with. -/
inductive Turn where
  /-- The listeners of its topic have been called. -/
  | deliver (m : Engine) (record : TopicStream.Event.Record)
  /-- It is a greeting, there was nothing to announce, and the observers have been told. -/
  | greet (m : Engine) (record : TopicStream.Event.Record) (clientId : String)
  /-- It is a greeting, its announcement has been answered, and the observers have been told. -/
  | announce (greeting : Greeting) (answer : Answer) (m : Engine)

/-- How a worker stands with a stream after the records that it has dealt with. -/
inductive Rest where
  /-- It reads on, or it has been told to end. -/
  | reads
  /-- It holds a greeting whose announcement has perhaps been answered. The answer has not been
  acted on, or it is a crash, or the worker has been told to end. -/
  | holds (greeting : Greeting) (answered : Option (Nat × Answer))
  /-- It has lost the stream. -/
  | lost (m : Engine)

/-- What has become of the request for a stream. -/
inductive Fate where
  /-- It has not been answered. -/
  | asked
  /-- It has been answered. The answer has not been acted on, or it is a crash, or the worker has
  been told to end. -/
  | answered (time : Nat) (answer : Answer)
  /-- It has failed. -/
  | refused (error : ClientError) (m : Engine)
  /-- It has succeeded. -/
  | opened (m : Engine) (serial : Nat) (turns : List Turn) (rest : Rest)

/-- An attempt to keep a connection alive. -/
structure Attempt where
  /-- The moment of the request. -/
  begun : Engine
  /-- What has become of it. -/
  fate : Fate

/-- The moment at which a request has failed or a stream has been lost. -/
def Fate.lost? : Fate → Option Engine
  | .refused _ m | .opened _ _ _ (.lost m) => some m
  | _ => none

/-- The moment at which an attempt has ended with a loss. -/
def Attempt.lost? (a : Attempt) : Option Engine := a.fate.lost?

/-! ### What attempts leave in the trace -/

/-- The answer of the transport to a worker. -/
def Answer.entry (w time : Nat) (answer : Answer) : Entry := ⟨time, .answered (.worker w) answer⟩

section Entries

variable (w serial : Nat)

/-- Reading and announcing a greeting. -/
def Greeting.entries (g : Greeting) : List Entry :=
  [⟨g.sent.now, .read w serial g.record⟩,
    ⟨g.sent.now, .announced (.worker w) g.clientId g.sent.registry.activeTopics⟩]

/-- Reading a record and dealing with it. -/
def Turn.entries : Turn → List Entry
  | .deliver m record => ⟨m.now, .read w serial record⟩ :: m.callings w record
  | .greet m record clientId => ⟨m.now, .read w serial record⟩ :: m.tellings w clientId
  | .announce greeting answer m =>
    greeting.entries w serial ++ answer.entry w m.now :: m.tellings w greeting.clientId

/-- What has followed the records that have been dealt with. -/
def Rest.entries : Rest → List Entry
  | .reads => []
  | .holds greeting answered =>
    greeting.entries w serial ++ (answered.map fun (time, answer) => answer.entry w time).toList
  | .lost m => m.losses w

/-- The beginning of a stream. -/
def openings (m : Engine) : List Entry :=
  [Answer.success.entry w m.now, ⟨m.now, .opened w serial⟩]

/-- What has followed a request. -/
def Fate.entries : Fate → List Entry
  | .asked => []
  | .answered time answer => [answer.entry w time]
  | .refused error m => (Answer.failure error).entry w m.now :: m.losses w
  | .opened m serial turns rest =>
    openings w serial m ++ turns.flatMap (Turn.entries w serial) ++ rest.entries w serial

/-- All that an attempt leaves. -/
def Attempt.entries (a : Attempt) : List Entry := a.begun.asking w :: a.fate.entries w

end Entries

/-! ### What holds at the moments of attempts -/

/-- Each of some parts of a history holds with what precedes it. -/
def Accounted {α : Type} (entries : α → List Entry) (p : List Entry → α → Prop) :
    List Entry → List α → Prop
  | _, [] => True
  | prior, a :: rest => p prior a ∧ Accounted entries p (prior ++ entries a) rest

theorem accounted_concat {α : Type} {entries : α → List Entry} {p : List Entry → α → Prop}
    {prior : List Entry} {l : List α} {a : α} :
    Accounted entries p prior (l ++ [a]) ↔
      Accounted entries p prior l ∧ p (prior ++ l.flatMap entries) a := by
  induction l generalizing prior with
  | nil => simp [Accounted]
  | cons b l ih =>
    rw [List.cons_append, Accounted, Accounted, ih, List.flatMap_cons, List.append_assoc, and_assoc]

section Sound

variable (takes : Engine → Engine → Prop) (w serial : Nat) (prior : List Entry)

/-- A greeting has been announced with the topics of that moment, as there were any. -/
structure Greeting.Sound (g : Greeting) : Prop where
  /-- It is a greeting. -/
  greeting : g.record.handshake? = some g.clientId
  /-- It has established the session. -/
  greets : g.sent.Greets w g.clientId
  /-- There was something to announce. -/
  due : g.sent.announcement? = some (g.clientId, g.sent.registry.activeTopics)
  /-- It has been read and announced in one step. -/
  comes : g.sent.Comes w takes (prior ++ g.entries w serial)

/-- A record that is no greeting has been delivered. After a greeting the observers have been told
while its session was ready: at once if there was nothing to announce, else as soon as the
announcement had succeeded or failed. -/
def Turn.Sound (t : Turn) : Prop :=
  match t with
  | .deliver m record =>
    record.handshake? = none ∧ m.Comes w takes (prior ++ t.entries w serial)
  | .greet m record clientId =>
    record.handshake? = some clientId ∧ m.Greets w clientId ∧ m.announcement? = none ∧
      m.Comes w takes (prior ++ t.entries w serial)
  | .announce greeting answer m =>
    greeting.Sound takes w serial prior ∧ answer ≠ .crash ∧ m.Greets w greeting.clientId ∧
      m.Comes w takes (prior ++ t.entries w serial)

/-- A stream that has been lost had yielded an error or had ended, and the observers have been told
in the step in which the worker has seen it. -/
def Rest.Sound (r : Rest) : Prop :=
  match r with
  | .reads => True
  | .holds greeting _ => greeting.Sound takes w serial prior
  | .lost m =>
    (∃ m₀, takes m₀ m ∧ m₀.Breaks w serial) ∧ m.Drops w ∧
      m.entriesOf (.worker w) = prior ++ r.entries w serial

/-- A request that has failed has dropped the session in the step in which the worker has seen it.
If it has succeeded, the records of the stream have been dealt with one after the other. -/
def Fate.Sound (f : Fate) : Prop :=
  match f with
  | .asked | .answered _ _ => True
  | .refused _ m => m.Drops w ∧ m.Comes w takes (prior ++ f.entries w)
  | .opened m serial turns rest =>
    m.Comes w takes (prior ++ openings w serial m) ∧
      Accounted (Turn.entries w serial) (Turn.Sound takes w serial) (prior ++ openings w serial m)
        turns ∧
      rest.Sound takes w serial
        (prior ++ openings w serial m ++ turns.flatMap (Turn.entries w serial))

/-- The current worker has asked for a stream, and all that has followed is in order. -/
structure Attempt.Sound (a : Attempt) : Prop where
  /-- The worker is the current one. -/
  slot : a.begun.slot = some w
  /-- It has asked for a stream. -/
  comes : a.begun.Comes w takes (prior ++ [a.begun.asking w])
  /-- What has followed. -/
  fate : a.fate.Sound takes w (prior ++ [a.begun.asking w])

end Sound

/-- An attempt has ended with a loss, and the next one has begun a pause later. -/
def Attempt.Precedes (pause : Nat) (a b : Attempt) : Prop :=
  ∃ m, a.lost? = some m ∧ a.begun.now ≤ m.now ∧ b.begun.now = m.now + pause

/-! ### Requests -/

/-- The time of a request for a stream. -/
def Entry.asked? (entry : Entry) : Option Nat :=
  match entry.event with
  | .requested _ _ => some entry.time
  | _ => none

/-- The times at which a worker has asked for a stream, in order. -/
def requestTimes (e : Engine) (w : Nat) : List Nat :=
  (e.entriesOf (.worker w)).filterMap Entry.asked?

section Requests

variable {w serial : Nat}

theorem Greeting.asked?_eq_none {g : Greeting} :
    ∀ entry ∈ g.entries w serial, entry.asked? = none := by
  simp [Greeting.entries, Entry.asked?]

theorem Turn.asked?_eq_none {t : Turn} : ∀ entry ∈ t.entries w serial, entry.asked? = none := by
  cases t with
  | deliver | greet =>
    exact List.forall_mem_cons.2 ⟨rfl, List.forall_mem_map.2 fun _ _ => rfl⟩
  | announce greeting answer m =>
    refine List.forall_mem_append.2 ⟨Greeting.asked?_eq_none, List.forall_mem_cons.2 ⟨rfl, ?_⟩⟩
    exact List.forall_mem_map.2 fun _ _ => rfl

theorem Rest.asked?_eq_none {r : Rest} : ∀ entry ∈ r.entries w serial, entry.asked? = none := by
  cases r with
  | reads => exact nofun
  | holds greeting answered =>
    refine List.forall_mem_append.2 ⟨Greeting.asked?_eq_none, fun entry hentry => ?_⟩
    obtain ⟨p, -, rfl⟩ := Option.map_eq_some_iff.1 (Option.mem_toList.1 hentry)
    rfl
  | lost m => exact List.forall_mem_map.2 fun _ _ => rfl

/-- No stream is asked for after the request that an attempt begins with. -/
theorem Fate.asked?_eq_none {f : Fate} : ∀ entry ∈ f.entries w, entry.asked? = none := by
  cases f with
  | asked => exact nofun
  | answered | refused => simp [Fate.entries, losses, Entry.asked?, Answer.entry]
  | opened m serial turns rest =>
    refine List.forall_mem_append.2 ⟨List.forall_mem_append.2 ⟨?_, fun entry hentry => ?_⟩, ?_⟩
    · simp [openings, Answer.entry, Entry.asked?]
    · obtain ⟨t, -, ht⟩ := List.mem_flatMap.1 hentry
      exact t.asked?_eq_none entry ht
    · exact rest.asked?_eq_none

/-- An attempt asks for a stream once. -/
theorem Attempt.filterMap_asked? (a : Attempt) :
    (a.entries w).filterMap Entry.asked? = [a.begun.now] := by
  have hbegun : (a.begun.asking w).asked? = some a.begun.now := rfl
  rw [Attempt.entries, List.filterMap_cons_some hbegun,
    List.filterMap_eq_nil_iff.2 Fate.asked?_eq_none]

theorem requestTimes_eq {e : Engine} {attempts : List Attempt}
    (h : e.entriesOf (.worker w) = attempts.flatMap (Attempt.entries w)) :
    e.requestTimes w = attempts.map (·.begun.now) := by
  rw [requestTimes, h, List.filterMap_flatMap]
  simp only [Attempt.filterMap_asked?]
  exact List.flatMap_pure_eq_map _ attempts

/-- Between two requests lies a pause at least. -/
theorem isChain_begun {pause : Nat} {attempts : List Attempt}
    (h : attempts.IsChain (Attempt.Precedes pause)) :
    (attempts.map (·.begun.now)).IsChain fun s t => s + pause ≤ t := by
  rw [List.isChain_map]
  refine h.imp fun a b hprecedes => ?_
  obtain ⟨m, -, hlater, hbegun⟩ := hprecedes
  omega

end Requests

end TopicStream.Engine
