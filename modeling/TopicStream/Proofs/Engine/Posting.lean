import TopicStream.Command.Plan
import TopicStream.Proofs.Engine.Announcement

/-!
# Announcements under a live session

A step sends one announcement at most, of what is due at that moment, and then waits for its answer
(`posts_step`). So whatever the interleaving, an announcement goes out under the session of the last
greeting that the worker in the slot has read from the stream that it reads (`LiveSession`), and
carries all topics with a listener (`FullSet`).

## Main results

* `exists_passes_of_post`: each announcement of a run is sent by one of its steps;
* `post_under_live_session`: at that step the session is live and the topics are the full set.
-/

namespace TopicStream.Engine

open Subscription

/-! ### What a step announces -/

section Step

variable {e e' : Engine}

/-- The beginning of a call announces nothing, or what is due. -/
theorem posts_beginCall (e : Engine) (request : Request) (borrows : Bool) :
    (e.beginCall request borrows).posts = e.posts ∨
      ∃ task clientId topics,
        Announces e (e.beginCall request borrows) task clientId topics := by
  cases request with
  | subscribe topic options listener =>
    left
    simp only [beginCall]
    split
    · exact posts_note _ rfl
    · -- neither the registration nor the start of a worker is an announcement
      exact (quiet_ensureWorker _).posts.trans (posts_note _ rfl)
  | ensureConnected patience => exact .inl (quiet_ensureWorker e).posts
  | disconnect => exact .inl (retreat_beginDisconnect _ _ _).posts
  | remove what =>
    have hretreat := retreat_concludeRemoval (e.withRemoval what borrows) e.calls.length .done
    have hremoved : Settles (e.withRemoval what borrows) (e.beginCall (.remove what) borrows) := by
      rw [beginCall_remove_eq]
      exact settles_announceFor _ _ hretreat.toQuiet
    -- the removal itself is no announcement
    rcases hremoved.posts with hposts | ⟨task, clientId, topics, hannounces⟩
    · exact .inl hposts
    · exact .inr ⟨task, clientId, topics, hannounces.posts, hannounces.last, hannounces.due⟩

/-- A step announces nothing, or what is due. -/
theorem posts_step {action : Action} (h : e.step action = some e') :
    e'.posts = e.posts ∨ ∃ task clientId topics, Announces e e' task clientId topics := by
  cases stepMove_of_step h with
  | start alive request => exact posts_beginCall e request true
  | @closeHandle c key id handle =>
    rcases posts_beginCall (e.useHandle c) (.remove (.listener key id)) false with
      hposts | ⟨task, clientId, topics, hannounces⟩
    · exact .inl hposts
    · exact .inr ⟨task, clientId, topics, hannounces.posts, hannounces.last, hannounces.due⟩
  -- a worker announces for a greeting, a call for what it has registered, removed or undone
  | worker present running move =>
    rcases quiet_or_settles_workerMove move with hquiet | hsettles
    · exact .inl hquiet.posts
    · exact hsettles.posts
  | call present move =>
    rcases retreat_or_settles_callMove move with ⟨hretreat, -⟩ | hsettles
    · exact .inl hretreat.posts
    · exact hsettles.posts
  | @answer task awaited answer => exact .inl (quiet_giveAnswer e task answer).posts
  | arrive isOpen item => exact .inl (posts_note (e.mapStream _ (·.arrive item)) rfl)
  | finish isOpen => exact .inl (posts_note (e.mapStream _ Body.finish) rfl)
  | dropWorker alive free taken => exact .inl (quiet_of_takeWorker _ taken).posts
  | tick | dropClient | setCredential | observeConnect | observeDisconnect => exact .inl rfl

end Step

/-! ### What a run announces -/

section Run

variable {e e' : Engine} {actions : List Action}

/-- Announcements that have been sent stay sent. -/
theorem posts_run (hrun : e.run actions = some e') : ∃ more, e'.posts = e.posts ++ more := by
  refine run_invariant (p := fun e' => ∃ more, e'.posts = e.posts ++ more) (q := fun _ => True)
    hrun (fun _ _ => trivial) (fun {e₁ e₂ action} _ hstep hsent => ?_)
    ⟨[], (List.append_nil _).symm⟩
  obtain ⟨more, hmore⟩ := hsent
  rcases posts_step hstep with hposts | ⟨task, clientId, topics, hannounces⟩
  · exact ⟨more, hposts.trans hmore⟩
  · refine ⟨more ++ [announcementRequest clientId topics], ?_⟩
    rw [hannounces.posts, hmore, List.append_assoc]

/-- Each announcement of a run is sent by one of its steps. -/
theorem exists_passes_of_post (hrun : e.run actions = some e') {n : Nat} {post : Http.Request}
    (hlater : e.posts.length ≤ n) (hpost : e'.posts[n]? = some post) :
    ∃ e₁ action e₂ task clientId topics, e.Passes actions e' e₁ action e₂ ∧
      e₁.posts.length = n ∧ post = announcementRequest clientId topics ∧
      Announces e₁ e₂ task clientId topics := by
  -- the step with which there are more than `n` announcements
  have hsent : n < e'.posts.length := (List.getElem?_eq_some_iff.1 hpost).1
  obtain ⟨e₁, action, e₂, hpasses, hbefore, hafter⟩ :=
    exists_passes (p := fun e => n < e.posts.length) hrun (Nat.not_lt.2 hlater) hsent
  rcases posts_step hpasses.step with hposts | ⟨task, clientId, topics, hannounces⟩
  · rw [hposts] at hafter
    exact absurd hafter hbefore
  · have hn : e₁.posts.length = n := by
      rw [hannounces.posts, List.length_append, List.length_singleton] at hafter
      omega
    refine ⟨e₁, action, e₂, task, clientId, topics, hpasses, hn, ?_, hannounces⟩
    obtain ⟨-, -, after, -, -, hrest⟩ := hpasses
    obtain ⟨more, hmore⟩ := posts_run hrest
    rw [hmore, hannounces.posts, ← hn] at hpost
    simpa using hpost.symm

end Run

/-! ### Under which session, and of which topics -/

/-- There is a session with a client id, and it is that of the last greeting that the worker in the
slot has read from the stream that it has opened last. The worker still reads that stream, unless it
has crashed. -/
structure LiveSession (e : Engine) (clientId : String) : Prop where
  /-- The session is ready and has the client id. -/
  session : e.session = ⟨clientId, true⟩
  /-- Waiting calls know. -/
  flag : e.ready = true
  /-- The client id is not empty. -/
  named : clientId ≠ ""
  /-- The worker in the slot has read the greeting. -/
  greeted : ∃ w k serial, e.slot = some w ∧ e.workers[w]? = some k ∧ k.cancelled = false ∧
    lastStream? w e.events = some serial ∧ lastGreeting? w serial e.events = some clientId ∧
    (k.phase = .crashed ∨ ∃ body, k.phase.body? = some body ∧ body.serial = serial)

/-- A list of topics consists of all topics with a listener. -/
structure FullSet (r : Registry Listener) (topics : List String) : Prop where
  /-- There is a topic. -/
  nonempty : topics ≠ []
  /-- The topics are strictly ascending, compared byte by byte in their encodings. -/
  ascending : topics.Pairwise fun s t => Text.Utf8.encode s.toList < Text.Utf8.encode t.toList
  /-- They are the topics with a listener. -/
  mem : ∀ topic, topic ∈ topics ↔ r.entries topic ≠ []

section Due

variable {e : Engine} {clientId : String} {topics : List String}

/-- What is due is due because the session can register and there are topics. -/
theorem canRegister_of_announcement? (h : e.announcement? = some (clientId, topics)) :
    e.session.canRegister = true ∧ topics ≠ [] := by
  rw [announcement?] at h
  split at h
  · rename_i hdue
    cases h
    simpa using hdue
  · cases h

theorem fullSet_of_announcement? (h : e.announcement? = some (clientId, topics)) :
    FullSet e.registry topics := by
  obtain ⟨-, rfl⟩ := announcement?_eq_some h
  obtain ⟨-, hsome⟩ := canRegister_of_announcement? h
  exact ⟨hsome, e.registry.activeTopics_ascending, fun topic => e.registry.mem_activeTopics⟩

/-- In a reachable state a session for which something is due is live. -/
theorem liveSession_of_announcement? {settings : Settings} {credential : Option String}
    (he : Reachable settings credential e) (h : e.announcement? = some (clientId, topics)) :
    LiveSession e clientId := by
  have hinv := sessionInv_of_reachable he
  obtain ⟨rfl, -⟩ := announcement?_eq_some h
  obtain ⟨hcan, -⟩ := canRegister_of_announcement? h
  obtain ⟨hready, hnamed⟩ : e.session.ready = true ∧ e.session.clientId ≠ "" := by
    simpa [Session.canRegister] using hcan
  -- a session that is ready is that of the worker in the slot
  obtain ⟨w, k, serial, hslot, hk, hmay, hstream, hgreeting⟩ :=
    exists_greeting_of_ready hinv hready
  have hlive : k.cancelled = false := by
    obtain ⟨k', hk', -, hlive⟩ := (slotInv_of_reachable he).slot_some w hslot
    cases hk.symm.trans hk'
    exact hlive
  constructor
  case session => rw [← hready]
  case flag => exact hinv.ready.trans hready
  case named => exact hnamed
  case greeted =>
    refine ⟨w, k, serial, hslot, hk, hlive, hstream, hgreeting, ?_⟩
    have hsame {body : Body} (hbody : k.phase.body? = some body) : body.serial = serial := by
      have hcurrent := hinv.current w k body hk hbody
      rw [lastStream?_core, hstream] at hcurrent
      exact (Option.some.inj hcurrent).symm
    -- a session outlives the reading of its stream only by a crash
    cases hphase : k.phase with
    | crashed => exact .inl rfl
    | reading body => exact .inr ⟨body, rfl, hsame (by rw [hphase]; rfl)⟩
    | greeting clientId body answer => exact .inr ⟨body, rfl, hsame (by rw [hphase]; rfl)⟩
    | _ =>
      rw [hphase] at hmay
      cases hmay

end Due

/-- Each announcement of a run, by whichever task, is sent to the path of the event stream with a
client id and a list of topics. In the state in which it is sent the session is ready and its client
id is the one announced, which is not empty and is that of the last greeting read by the worker in
the slot from its stream; and the topics are all those with a listener, at least one, in the order
of their encodings. So none is sent before the first greeting, nor after the loss of a stream or the
end of a worker before the next greeting, nor for a greeting without a client id, nor without
topics. -/
theorem post_under_live_session {settings : Settings} {credential : Option String}
    {actions : List Action} {e : Engine}
    (hrun : (Engine.initial settings credential).run actions = some e) {n : Nat}
    {post : Http.Request} (hpost : e.posts[n]? = some post) :
    ∃ e₁ action e₂ task clientId topics,
      (Engine.initial settings credential).Passes actions e e₁ action e₂ ∧
      e₁.posts.length = n ∧ e₂.posts = e₁.posts ++ [post] ∧
      e₂.events.getLast? = some (.announced task clientId topics) ∧
      post = announcementRequest clientId topics ∧
      (∀ (plan : Command.Plan) (now : Int),
        let message := plan.announcementMessage now clientId topics
        message.method = .post ∧ message.url = plan.transport.url "/api/realtime" ∧
          message.body = some (.object [("clientId", .string clientId),
            ("subscriptions", .array (topics.map .string))])) ∧
      LiveSession e₂ clientId ∧ FullSet e₂.registry topics := by
  obtain ⟨e₁, action, e₂, task, clientId, topics, hpasses, hn, rfl, hannounces⟩ :=
    exists_passes_of_post hrun (Nat.zero_le n) hpost
  have he₂ : Reachable settings credential e₂ :=
    (hpasses.reachable .initial).step action hpasses.step
  exact ⟨e₁, action, e₂, task, clientId, topics, hpasses, hn, hannounces.posts, hannounces.last,
    rfl, fun plan now => ⟨rfl, rfl, rfl⟩, liveSession_of_announcement? he₂ hannounces.due,
    fullSet_of_announcement? hannounces.due⟩

/-! ### A subscription during a teardown -/

/-- The client id and the topics that are announced, if this is what happens. -/
def Event.announcement? : Event → Option (String × List String)
  | .announced _ clientId topics => some (clientId, topics)
  | _ => none

theorem posts_eq_map (e : Engine) :
    e.posts = (e.events.filterMap Event.announcement?).map fun p =>
      announcementRequest p.1 p.2 := by
  rw [List.map_filterMap, posts]
  refine List.filterMap_congr fun event _ => ?_
  cases event <;> rfl

/-- The last topic is removed while its announcement is held, and two others are subscribed to
before the worker has ended. The worker that is started for them reads a greeting of its own. -/
def resumedAfterTeardown : List Action :=
  [.start (.subscribe "news" .none (.sample "first" false))] ++
    openingActions 0 0 (greetingBytes "c1") ++
    [.resume (.worker 0) true, .start (.remove .all),
      .start (.subscribe "sport" .none (.sample "second" false)),
      .start (.subscribe "news" .none (.sample "third" false)), .resume (.worker 0) true] ++
    openingActions 1 1 (greetingBytes "c2") ++ [.resume (.worker 1) true]

/-- An announcement tells the client id and the topics. -/
theorem announcementRequest_inj {clientId clientId' : String} {topics topics' : List String}
    (h : announcementRequest clientId topics = announcementRequest clientId' topics') :
    clientId = clientId' ∧ topics = topics' := by
  simp only [announcementRequest, Http.Request.post, announcementBody, Http.Request.mk.injEq,
    Option.some.injEq, Json.object.injEq, List.cons.injEq, Prod.mk.injEq, Json.string.injEq,
    Json.array.injEq, true_and, and_true] at h
  obtain ⟨hclient, htopics⟩ := h
  exact ⟨hclient, (List.map_inj_right fun _ _ heq => Json.string.inj heq).1 htopics⟩

/-- The second announcement is made under the new session, with both topics. -/
theorem post_under_live_session_resumed :
    ∃ e, (Engine.initial .sample none).run resumedAfterTeardown = some e ∧
      e.posts[1]? = some (announcementRequest "c2" ["news", "sport"]) ∧
      ∃ (action : Action) (e₁ e₂ : Engine), e₁.step action = some e₂ ∧ e₁.posts.length = 1 ∧
        LiveSession e₂ "c2" ∧ FullSet e₂.registry ["news", "sport"] := by
  obtain ⟨e, hrun, hend⟩ := exists_run (.initial .sample none) resumedAfterTeardown
    (fun e => e.events.filterMap Event.announcement? =
      [("c1", ["news"]), ("c2", ["news", "sport"])]) (by decide +kernel)
  have hpost : e.posts[1]? = some (announcementRequest "c2" ["news", "sport"]) := by
    rw [posts_eq_map, of_decide_eq_true hend]
    rfl
  obtain ⟨e₁, action, e₂, -, clientId, topics, hpasses, hn, -, -, hsame, -, hlive, hfull⟩ :=
    post_under_live_session hrun hpost
  obtain ⟨rfl, rfl⟩ := announcementRequest_inj hsame
  exact ⟨e, hrun, hpost, action, e₁, e₂, hpasses.step, hn, hlive, hfull⟩

end TopicStream.Engine
