import TopicStream.Proofs.Engine.Notes
import TopicStream.Proofs.Engine.Posting

/-!
# Announcements that overtake each other

Every announcement tells all active topics, so that the server need remember the last one only. But
several tasks may have announcements under way at once, and nothing makes one wait for the other:
the server may answer them in any order, and then what it remembers need not be what was sent last.

The server is the other party of a system of two (`System`). It answers announcements that have been
sent, each once and whenever it likes; with the answer it replaces the topics that it holds for the
client id by those announced. The engine takes in that an announcement has succeeded only after the
server has answered it. An announcement that has been cut short may be answered all the same.

## Main results

* `System.inv_run`: what the server holds for a client id is what it was told by the announcement
  that it has answered last;
* `held_unless_overtaken`: where nothing can go on and all is answered, these are the active topics,
  unless the announcement sent last has been overtaken;
* `held_of_overtaken`: a run in which it has been.
-/

namespace TopicStream.Engine

open Subscription

/-! ### Announcements that wait for an answer -/

/-- The client ids and topics of all announcements sent so far, in order. -/
def announcements (e : Engine) : List (String × List String) :=
  e.events.filterMap Event.announcement?

/-- The task that makes an announcement, if this is what happens. -/
def Event.announcer? : Event → Option Task
  | .announced task _ _ => some task
  | _ => none

/-- The number of the last announcement that a task has made. -/
def lastAnnouncement? (e : Engine) (task : Task) : Option Nat :=
  ((e.events.filterMap Event.announcer?).zipIdx.filter fun p => p.1 = task).getLast?.map (·.2)

/-- Whether a task waits for the answer to an announcement. A worker may wait for a stream
instead. -/
def awaitsAnnouncement (e : Engine) : Task → Bool
  | .call c => e.awaitsAnswer (.call c)
  | .worker w => match e.workers[w]?.map Worker.phase with
    | some (.greeting _ _ none) => true
    | _ => false

/-- The number of the announcement that a task waits for an answer to. -/
def pendingAnnouncement? (e : Engine) (task : Task) : Option Nat :=
  if e.awaitsAnnouncement task then e.lastAnnouncement? task else none

section Announcements

variable {e e' : Engine} {action : Action}

/-- An announcement that has been sent keeps its number. -/
theorem announcements_step (h : e.step action = some e') :
    ∃ more, e'.announcements = e.announcements ++ more := by
  obtain ⟨more, htrace, -⟩ := notes_of_step h
  refine ⟨more.filterMap Event.announcement?, ?_⟩
  rw [announcements, announcements, events_of_trace htrace, List.filterMap_append]

/-- Where nothing can go on, the session can register and there is a topic, the announcement sent
last tells the client id of the session and the active topics. -/
theorem getLast?_announcements {settings : Settings} {credential : Option String}
    (he : Reachable settings credential e) (hquiet : Quiescent e)
    (hcan : e.session.canRegister = true) (htopics : e.registry.isEmpty = false) :
    e.announcements.getLast? = some (e.session.clientId, e.registry.activeTopics) := by
  have hdue := announcement?_of_topics (wellFormed_of_reachable he) hcan htopics
  have hlast := announced_of_quiescent he hquiet (Bool.and_eq_true_iff.1 hcan).1 _ _ hdue
  rw [posts_eq_map, List.getLast?_map, Option.map_eq_some_iff] at hlast
  obtain ⟨⟨clientId, topics⟩, hsent, hsame⟩ := hlast
  obtain ⟨rfl, rfl⟩ := announcementRequest_inj hsame
  exact hsent

end Announcements

end Engine

/-! ### The server -/

open Engine

/-- What a server does with announcements. -/
structure Server where
  /-- The numbers of the announcements that it has answered, in the order of the answers. -/
  answered : List Nat
  /-- The topics that it holds for a client id. -/
  held : String → Option (List String)

/-- Answers an announcement: its topics replace all that have been held for the client id. -/
def Server.answer (server : Server) (n : Nat) (clientId : String) (topics : List String) :
    Server where
  answered := server.answered ++ [n]
  held id := if id = clientId then some topics else server.held id

/-- An engine and the server that it talks to. -/
structure System where
  /-- The engine. -/
  engine : Engine
  /-- The server. -/
  server : Server

namespace System

/-- Something that can happen next. -/
inductive Action where
  /-- An action of the engine. -/
  | act (action : Engine.Action)
  /-- The server answers the announcement with this number. -/
  | answer (n : Nat)

/-- The system before the first call. -/
def initial (settings : Settings) (credential : Option String) : System where
  engine := Engine.initial settings credential
  server := ⟨[], fun _ => none⟩

/-- Whether an action of the engine goes with what the server has done: an announcement succeeds
only after the server has answered it. -/
def permits (s : System) : Engine.Action → Bool
  | .answer task .success => match s.engine.pendingAnnouncement? task with
    | some n => s.server.answered.contains n
    | none => true
  | _ => true

/-- What an action leads to; nothing if it cannot happen. -/
def step (s : System) : Action → Option System
  | .act action =>
    if s.permits action then (s.engine.step action).map fun engine => { s with engine } else none
  | .answer n =>
    match s.engine.announcements[n]? with
    | some (clientId, topics) =>
      if s.server.answered.contains n then none
      else some { s with server := s.server.answer n clientId topics }
    | none => none

/-- What a list of actions leads to; nothing if one of them cannot happen. -/
def run (s : System) : List Action → Option System
  | [] => some s
  | action :: actions => (s.step action).bind fun s' => s'.run actions

/-- A run whose end can be evaluated. -/
theorem exists_run (s : System) (actions : List Action) (p : System → Bool)
    (h : (s.run actions).any p = true) : ∃ s', s.run actions = some s' ∧ p s' = true := by
  cases hrun : s.run actions with
  | none =>
    rw [hrun] at h
    cases h
  | some s' =>
    rw [hrun] at h
    exact ⟨s', rfl, h⟩

/-! ### What the server holds -/

/-- What a server holds for a client id goes back to the announcement for the client id that it has
answered last. -/
inductive Holds (announcements : List (String × List String)) (server : Server)
    (clientId : String) : Prop
  /-- It has answered none for the client id. -/
  | nothing (held : server.held clientId = none)
      (others : ∀ m ∈ server.answered, ∀ topics, announcements[m]? ≠ some (clientId, topics)) :
      Holds announcements server clientId
  /-- It holds the topics of one after which it has answered none for the client id. -/
  | last {before after : List Nat} {n : Nat} {topics : List String}
      (answered : server.answered = before ++ n :: after)
      (announced : announcements[n]? = some (clientId, topics))
      (held : server.held clientId = some topics)
      (others : ∀ m ∈ after, ∀ topics, announcements[m]? ≠ some (clientId, topics)) :
      Holds announcements server clientId

/-- What is kept in a system. -/
structure Inv (settings : Settings) (credential : Option String) (s : System) : Prop where
  /-- The engine goes its way whatever the server does. -/
  reachable : Reachable settings credential s.engine
  /-- The server answers what has been sent. -/
  sent : ∀ n ∈ s.server.answered, n < s.engine.announcements.length
  /-- What it holds goes back to the last answers. -/
  holds : ∀ clientId, Holds s.engine.announcements s.server clientId

section Holds

variable {announcements : List (String × List String)} {server : Server} {clientId : String}

/-- What is announced later does not matter for what is held. -/
theorem Holds.append (h : Holds announcements server clientId)
    (hsent : ∀ n ∈ server.answered, n < announcements.length)
    (more : List (String × List String)) : Holds (announcements ++ more) server clientId := by
  have hsame {m : Nat} (hm : m ∈ server.answered) :
      (announcements ++ more)[m]? = announcements[m]? := List.getElem?_append_left (hsent m hm)
  cases h with
  | nothing held others =>
    refine .nothing held fun m hm topics => ?_
    rw [hsame hm]
    exact others m hm topics
  | @last before after n topics answered announced held others =>
    have hmem {m : Nat} (hm : m ∈ n :: after) : m ∈ server.answered := by
      rw [answered]
      exact List.mem_append_right before hm
    refine .last answered ?_ held fun m hm topics => ?_
    · rw [hsame (hmem List.mem_cons_self)]
      exact announced
    · rw [hsame (hmem (List.mem_cons_of_mem n hm))]
      exact others m hm topics

/-- An answer replaces what is held for its client id, and nothing else. -/
theorem Holds.answer (h : Holds announcements server clientId) {n : Nat} {id : String}
    {topics : List String} (hn : announcements[n]? = some (id, topics)) :
    Holds announcements (server.answer n id topics) clientId := by
  by_cases hid : clientId = id
  · subst hid
    have hanswered : (server.answer n clientId topics).answered = server.answered ++ n :: [] := rfl
    exact .last hanswered hn (if_pos rfl) nofun
  · -- the answer is for another client id, so that it stands for nothing here
    have hheld : (server.answer n id topics).held clientId = server.held clientId := if_neg hid
    have hother {m : Nat} (hm : m = n) (topics' : List String) :
        announcements[m]? ≠ some (clientId, topics') := by
      rintro heq
      rw [hm, hn] at heq
      cases heq
      exact hid rfl
    cases h with
    | nothing held others =>
      refine .nothing (hheld.trans held) fun m hm topics' => ?_
      rcases List.mem_append.1 hm with hmem | hnew
      · exact others m hmem topics'
      · exact hother (List.mem_singleton.1 hnew) topics'
    | @last before after n' topics₀ answered announced held others =>
      have hanswered : (server.answer n id topics).answered = before ++ n' :: (after ++ [n]) := by
        rw [Server.answer, answered, List.append_assoc, List.cons_append]
      refine .last hanswered announced (hheld.trans held) fun m hm topics' => ?_
      rcases List.mem_append.1 hm with hmem | hnew
      · exact others m hmem topics'
      · exact hother (List.mem_singleton.1 hnew) topics'

end Holds

section Inv

variable {settings : Settings} {credential : Option String} {s s' : System}

theorem inv_initial (settings : Settings) (credential : Option String) :
    Inv settings credential (initial settings credential) where
  reachable := .initial
  sent := nofun
  holds _ := .nothing rfl nofun

theorem inv_step {action : Action} (h : Inv settings credential s)
    (hstep : s.step action = some s') : Inv settings credential s' := by
  cases action with
  | act action =>
    simp only [step] at hstep
    split at hstep
    · -- the server has done nothing, and what it has answered keeps its number
      obtain ⟨engine, hengine, rfl⟩ := Option.map_eq_some_iff.1 hstep
      obtain ⟨more, hmore⟩ := announcements_step hengine
      refine ⟨h.reachable.step action hengine, fun n hn => ?_, fun clientId => ?_⟩
      · rw [hmore, List.length_append]
        exact Nat.lt_of_lt_of_le (h.sent n hn) (Nat.le_add_right _ _)
      · rw [hmore]
        exact (h.holds clientId).append h.sent more
    · cases hstep
  | answer n =>
    simp only [step] at hstep
    split at hstep
    · rename_i clientId topics hn
      split at hstep
      · cases hstep
      · cases hstep
        refine ⟨h.reachable, fun m hm => ?_, fun id => (h.holds id).answer hn⟩
        rcases List.mem_append.1 hm with hmem | hnew
        · exact h.sent m hmem
        · rw [List.mem_singleton.1 hnew]
          exact (List.getElem?_eq_some_iff.1 hn).1
    · cases hstep

/-- Whatever engine and server do, what the server holds goes back to its last answers. -/
theorem inv_run {actions : List Action} (h : Inv settings credential s)
    (hrun : s.run actions = some s') : Inv settings credential s' := by
  induction actions generalizing s with
  | nil =>
    cases hrun
    exact h
  | cons action actions ih =>
    obtain ⟨s₁, hstep, hrest⟩ := Option.bind_eq_some_iff.1 hrun
    exact ih (inv_step h hstep) hrest

end Inv

/-- A worker announces the topic of a greeting, and so does the call that has waited for it. Then
another topic is subscribed to, which makes the third announcement. -/
def threeAnnouncements : List Engine.Action :=
  [.start (.subscribe "news" .none (.sample "first" false))] ++
    openingActions 0 0 (greetingBytes "c1") ++
    [.resume (.worker 0) true, .resume (.call 0) true,
      .start (.subscribe "sport" .none (.sample "second" false)), .resume (.call 1) true]

/-- The server answers an announcement, and the task that has made it goes on. -/
def answerActions (n : Nat) (task : Task) : List Action :=
  [.answer n, .act (.answer task .success), .act (.resume task true)]

/-- The first two announcements are answered in reverse order, and then the third. -/
def answeredReversed : List Action :=
  threeAnnouncements.map .act ++ answerActions 1 (.call 0) ++ answerActions 0 (.worker 0) ++
    answerActions 2 (.call 1)

/-- The announcement of the worker, which was the first, is answered last. -/
def answeredOvertaken : List Action :=
  threeAnnouncements.map .act ++ answerActions 1 (.call 0) ++ answerActions 2 (.call 1) ++
    answerActions 0 (.worker 0)

end System

end TopicStream
