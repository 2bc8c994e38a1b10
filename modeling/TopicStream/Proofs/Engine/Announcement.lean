import TopicStream.Proofs.Engine.Calls
import TopicStream.Proofs.Engine.Registered
import TopicStream.Proofs.Engine.Session

/-!
# Announcements converge

The topics change in many places, and each change is announced later than it is made, if the session
is ready by then. Still no change is left unannounced. The invariant is a disjunction: either what
is due has been announced last (`Announced`), or a subscription waits for the greeting and will
announce when it goes on (`Owing`). Where nothing can go on and the session is ready, the second is
impossible.

## Main results

* `announced_or_owing_step`: every step keeps the invariant;
* `last_post_of_quiescent`: where nothing can go on, the last announcement carries the client id of
  the session and the active topics.
-/

namespace TopicStream.Engine

open Subscription

/-! ### What has been announced -/

/-- The request of an announcement, if one is sent. -/
def Event.post? : Event → Option Http.Request
  | .announced _ clientId topics => some (announcementRequest clientId topics)
  | _ => none

/-- The announcements sent so far, in order. -/
def posts (e : Engine) : List Http.Request := e.events.filterMap Event.post?

/-- What is due has been announced last. -/
def Announced (e : Engine) : Prop :=
  ∀ clientId topics, e.announcement? = some (clientId, topics) →
    e.posts.getLast? = some (announcementRequest clientId topics)

/-- A call waits for the greeting to announce what it has registered. -/
def Call.Owes (call : Call) : Prop :=
  (∃ deadline, call.phase = .awaiting deadline) ∧ call.registered.isSome = true

/-- Some call waits for the greeting to announce what it has registered. -/
def Owing (e : Engine) : Prop :=
  ∃ (c : Nat) (call : Call), e.calls[c]? = some call ∧ call.Owes

section Posts

variable (e : Engine)

theorem posts_note {event : Event} (h : event.post? = none) : (e.note event).posts = e.posts := by
  simp [posts, events, note, h]

theorem posts_noteAll {more : List Event} (h : ∀ event ∈ more, event.post? = none) :
    (e.noteAll more).posts = e.posts := by
  have hmore : more.filterMap Event.post? = [] := List.filterMap_eq_nil_iff.2 h
  simp [posts, events, noteAll, Function.comp_def, hmore]

theorem posts_greeted (w serial : Nat) (record : TopicStream.Event.Record) (clientId : String) :
    (e.greeted w serial record clientId).posts = e.posts := by
  have hread : (Event.read w serial record).post? = none := rfl
  exact posts_note e hread

theorem posts_announced (task : Task) (clientId : String) (topics : List String) :
    (e.note (.announced task clientId topics)).posts =
      e.posts ++ [announcementRequest clientId topics] := by
  simp [posts, events, note, Event.post?]

end Posts

/-! ### Steps that announce nothing -/

/-- Nothing is announced, the registry stays as it is, and the session does or is dropped. -/
structure Quiet (e e' : Engine) : Prop where
  /-- The registry stays as it is. -/
  registry : e'.registry = e.registry
  /-- The session stays as it is or is dropped. -/
  session : e'.session = e.session ∨ e'.session = .none
  /-- Nothing is announced. -/
  posts : e'.posts = e.posts

section Quiet

variable {e e' e'' : Engine}

theorem Quiet.refl (e : Engine) : Quiet e e := ⟨rfl, .inl rfl, rfl⟩

theorem Quiet.trans (h : Quiet e e') (h' : Quiet e' e'') : Quiet e e'' where
  registry := h'.registry.trans h.registry
  session := by
    rcases h'.session with hsame | hnone
    · rw [hsame]
      exact h.session
    · exact .inr hnone
  posts := h'.posts.trans h.posts

theorem quiet_note (e : Engine) {event : Event} (h : event.post? = none) : Quiet e (e.note event) :=
  ⟨rfl, .inl rfl, posts_note e h⟩

theorem quiet_noteAll (e : Engine) {α : Type} (l : List α) {f : α → Event}
    (h : ∀ a, (f a).post? = none) : Quiet e (e.noteAll (l.map f)) :=
  ⟨rfl, .inl rfl, posts_noteAll e (List.forall_mem_map.2 fun a _ => h a)⟩

theorem quiet_notifyConnected (e : Engine) (w : Nat) (clientId : String) :
    Quiet e (e.notifyConnected w clientId) :=
  notifyConnected_eq e w clientId ▸ quiet_noteAll e e.onConnect fun _ => rfl

theorem quiet_notifyLost (e : Engine) (w : Nat) : Quiet e (e.notifyLost w) :=
  notifyLost_eq e w ▸ quiet_noteAll e e.onDisconnect fun _ => rfl

theorem quiet_dispatch (e : Engine) (w : Nat) (record : TopicStream.Event.Record) :
    Quiet e (e.dispatch w record) :=
  dispatch_eq e w record ▸ quiet_noteAll e (e.registry.entries record.event) fun _ => rfl

theorem quiet_setWorker (e : Engine) (w : Nat) (phase : Worker.Phase) :
    Quiet e (e.setWorker w phase) :=
  ⟨rfl, .inl rfl, rfl⟩

theorem quiet_setConnection (e : Engine) (connection : Connection) (epoch : Nat) :
    Quiet e (e.setConnection connection epoch) := by
  unfold setConnection
  split
  · exact ⟨rfl, .inl rfl, rfl⟩
  · exact .refl e

theorem quiet_resetSession (e : Engine) (epoch : Nat) : Quiet e (e.resetSession epoch) := by
  unfold resetSession
  split
  · exact ⟨rfl, .inr rfl, rfl⟩
  · exact .refl e

theorem quiet_giveAnswer (e : Engine) (task : Task) (answer : Answer) :
    Quiet e (e.giveAnswer task answer) := by
  have hposts : (e.note (.answered task answer)).posts = e.posts := posts_note e rfl
  cases task <;> exact ⟨rfl, .inl rfl, hposts⟩

theorem announcement?_of_none (h : e.session = .none) : e.announcement? = none := by
  rw [announcement?, h]
  rfl

/-- What is due has still been announced last. -/
theorem Announced.quiet (he : Announced e) (h : Quiet e e') : Announced e' := by
  intro clientId topics hdue
  rcases h.session with hsame | hnone
  -- the session stays: the same is due as before, and the last announcement is the same
  · rw [h.posts]
    refine he clientId topics ?_
    rw [← hdue, announcement?, announcement?, hsame, h.registry]
  -- the session is dropped: nothing is due
  · rw [announcement?_of_none hnone] at hdue
    cases hdue

/-- Where nothing is due, nothing is missing. -/
theorem announced_of_none (h : e.announcement? = none) : Announced e := by
  intro clientId topics hdue
  rw [h] at hdue
  cases hdue

/-- Where nothing is due, a quiet step leaves nothing due. -/
theorem Quiet.announcement?_eq_none (h : Quiet e e') (hnothing : e.announcement? = none) :
    e'.announcement? = none := by
  rcases h.session with hsame | hnone
  · rw [← hnothing, announcement?, announcement?, hsame, h.registry]
  · exact announcement?_of_none hnone

end Quiet

/-! ### Steps that leave nothing unannounced -/

/-- A step announces what is due, and does nothing after that but wait for the answer. -/
structure Announces (e e' : Engine) (task : Task) (clientId : String) (topics : List String) :
    Prop where
  /-- The announcement comes after all earlier ones. -/
  posts : e'.posts = e.posts ++ [announcementRequest clientId topics]
  /-- Nothing happens after it. -/
  last : e'.events.getLast? = some (.announced task clientId topics)
  /-- It is what is due. -/
  due : e'.announcement? = some (clientId, topics)

/-- A step leaves nothing unannounced: nothing is due, or it announces what is. -/
inductive Settles (e e' : Engine) : Prop
  /-- Nothing is due. -/
  | idle (nothing : e'.announcement? = none) (posts : e'.posts = e.posts)
  /-- What is due is announced. -/
  | announce (task : Task) (clientId : String) (topics : List String)
      (announces : Announces e e' task clientId topics)

section Settles

variable {e e' : Engine}

/-- What is due has been announced last. -/
theorem Settles.announced (h : Settles e e') : Announced e' := by
  intro clientId topics hdue
  cases h with
  | idle nothing posts =>
    rw [nothing] at hdue
    cases hdue
  | announce task clientId topics announces =>
    cases announces.due.symm.trans hdue
    rw [announces.posts, List.getLast?_concat]

/-- A step that leaves nothing unannounced announces at most once. -/
theorem Settles.posts (h : Settles e e') :
    e'.posts = e.posts ∨ ∃ task clientId topics, Announces e e' task clientId topics := by
  cases h with
  | idle nothing posts => exact .inl posts
  | announce task clientId topics announces => exact .inr ⟨task, clientId, topics, announces⟩

theorem Quiet.settles (h : Quiet e e') (hnothing : e.announcement? = none) : Settles e e' :=
  .idle (h.announcement?_eq_none hnothing) h.posts

theorem announces_note {task : Task} {clientId : String} {topics : List String}
    (hdue : e.announcement? = some (clientId, topics)) :
    Announces e (e.note (.announced task clientId topics)) task clientId topics where
  posts := posts_announced e task clientId topics
  last := by rw [events_note, List.getLast?_concat]
  due := hdue

theorem announces_of_announce? {task : Task} (h : e.announce? task = some e') :
    ∃ clientId topics, Announces e e' task clientId topics := by
  obtain ⟨⟨clientId, topics⟩, hdue, rfl⟩ := Option.map_eq_some_iff.1 h
  exact ⟨clientId, topics, announces_note hdue⟩

end Settles

/-! ### What calls announce -/

/-- A call goes on without announcing anything, and without touching other calls. -/
structure Retreat (e e' : Engine) (c : Nat) : Prop extends Quiet e e' where
  /-- Other calls stay where they are. -/
  others : ∀ c', c' ≠ c → e'.calls[c']? = e.calls[c']?

section Calls

variable (e : Engine)

theorem retreat_endCall (c : Nat) (outcome : Outcome) : Retreat e (e.endCall c outcome) c where
  registry := rfl
  session := .inl rfl
  posts := posts_note (e.setCall c (.ended outcome)) rfl
  others _ := (goes_endCall e c outcome).others

theorem retreat_concludeDisconnect (c : Nat) (outcome : Outcome) :
    Retreat e (e.concludeDisconnect c outcome) c := by
  unfold concludeDisconnect
  split
  · obtain ⟨hquiet, hothers⟩ := retreat_endCall { e with connection := .idle } c outcome
    exact ⟨⟨hquiet.registry, hquiet.session, hquiet.posts⟩, hothers⟩
  · exact retreat_endCall e c outcome

theorem quiet_of_takeWorker {call : Option Nat} {w : Nat} {e' : Engine}
    (h : e.takeWorker call = some (w, e')) : Quiet e e' := by
  unfold takeWorker at h
  split at h
  · cases h
  · cases h
    exact ⟨rfl, .inr rfl, posts_note _ rfl⟩

theorem retreat_beginDisconnect (c : Nat) (outcome : Outcome) :
    Retreat e (e.beginDisconnect c outcome) c := by
  obtain ⟨phase, hgoes, -⟩ := goes_beginDisconnect e c outcome
  refine ⟨?_, fun _ => hgoes.others⟩
  unfold beginDisconnect
  split
  · rename_i w e' htake
    have hquiet := quiet_of_takeWorker e htake
    exact ⟨hquiet.registry, hquiet.session, hquiet.posts⟩
  · exact (retreat_concludeDisconnect e c outcome).toQuiet

theorem retreat_concludeRemoval (c : Nat) (outcome : Outcome) :
    Retreat e (e.concludeRemoval c outcome) c := by
  unfold concludeRemoval
  split
  · exact retreat_beginDisconnect e c outcome
  · exact retreat_endCall e c outcome

/-- A call that announces, or goes on quietly if there is nothing to announce, leaves nothing
unannounced. -/
theorem settles_announceFor (c : Nat) {otherwise : Engine → Engine} (h : Quiet e (otherwise e)) :
    Settles e (e.announceFor c otherwise) := by
  unfold announceFor
  split
  · rename_i e' hannounce
    obtain ⟨clientId, topics, hannounces⟩ := announces_of_announce? hannounce
    -- the phase of the call does not matter
    exact .announce (.call c) clientId topics
      ⟨hannounces.posts, hannounces.last, hannounces.due⟩
  · rename_i hannounce
    exact h.settles (Option.map_eq_none_iff.1 hannounce)

/-- A registration that is undone leaves nothing unannounced. -/
theorem settles_rollBack (c : Nat) (key : String) (id : ListenerId) (error : ClientError) :
    Settles e (e.rollBack c key id error) := by
  let e₁ := { e with registry := (e.registry.removeListener key id).2 }
  have hposts : e₁.posts = e.posts := rfl
  simp only [rollBack]
  split
  -- the last topic is gone: nothing is due before the teardown, and nothing becomes due in it
  · rename_i hempty
    have hquiet : Quiet e₁ (e₁.beginDisconnect c (.failed error)) :=
      (retreat_beginDisconnect e₁ c _).toQuiet
    have hnothing := hquiet.announcement?_eq_none (announcement?_of_isEmpty e₁ hempty)
    exact .idle hnothing (hquiet.posts.trans hposts)
  -- topics are left: they are announced if the session is ready
  · split
    · rename_i e' hannounce
      obtain ⟨clientId, topics, hannounces⟩ := announces_of_announce? hannounce
      exact .announce (.call c) clientId topics
        ⟨hannounces.posts, hannounces.last, hannounces.due⟩
    · rename_i hannounce
      have hquiet : Quiet e₁ (e₁.endCall c (.failed error)) := (retreat_endCall e₁ c _).toQuiet
      have hnothing := hquiet.announcement?_eq_none (Option.map_eq_none_iff.1 hannounce)
      exact .idle hnothing (hquiet.posts.trans hposts)

/-- Seeing to it that a worker is running drops the session at most. -/
theorem quiet_ensureWorker : Quiet e e.ensureWorker := by
  unfold ensureWorker
  split
  · exact .refl e
  · exact ⟨rfl, .inr rfl, posts_note _ rfl⟩

end Calls

/-! ### The invariant -/

section Invariant

variable {e e' : Engine}

/-- A call that owes nothing goes on without announcing anything. -/
theorem Retreat.announced_or_owing {c : Nat} (h : Retreat e e' c)
    (hnot : ∀ call, e.calls[c]? = some call → ¬ call.Owes) (he : Announced e ∨ Owing e) :
    Announced e' ∨ Owing e' := by
  rcases he with hannounced | ⟨c', call, hcall, howes⟩
  · exact .inl (hannounced.quiet h.toQuiet)
  · right
    -- the call that owes something is another one
    refine ⟨c', call, ?_, howes⟩
    rw [h.others c' ?_, hcall]
    rintro rfl
    exact hnot call hcall howes

/-- A step that leaves all calls that owe something in their place and announces nothing. -/
theorem Quiet.announced_or_owing (h : Quiet e e')
    (hcalls : ∀ (c : Nat) (call : Call), e.calls[c]? = some call → call.Owes →
      ∃ call', e'.calls[c]? = some call' ∧ call'.Owes)
    (he : Announced e ∨ Owing e) : Announced e' ∨ Owing e' := by
  rcases he with hannounced | ⟨c, call, hcall, howes⟩
  · exact .inl (hannounced.quiet h)
  · exact .inr ⟨c, hcalls c call hcall howes⟩

/-- A call that goes on owes nothing and announces nothing, or leaves nothing unannounced. -/
theorem retreat_or_settles_callMove {c : Nat} {call : Call} (h : CallMove e c call e') :
    (Retreat e e' c ∧ ¬ call.Owes) ∨ Settles e e' := by
  -- only a call that waits for the greeting owes an announcement
  have hphase {phase : Call.Phase} (h : call.phase = phase)
      (hother : ∀ deadline, phase ≠ .awaiting deadline) : ¬ call.Owes := by
    rintro ⟨⟨deadline, hawaiting⟩, -⟩
    exact hother deadline (h.symm.trans hawaiting)
  have hnone (h : call.registered = none) : ¬ call.Owes := by
    rintro ⟨-, hsome⟩
    rw [h] at hsome
    cases hsome
  -- the debt is paid in `announce` and void in `undo`; in all other cases the call owes nothing
  cases h with
  | announce phase ready subscriber =>
    exact .inr (settles_announceFor e c (retreat_endCall e c _).toQuiet)
  | undo subscriber cause => exact .inr (settles_rollBack e c _ _ _)
  | greeted phase ready waiter => exact .inl ⟨retreat_endCall e c _, hnone waiter⟩
  | timeOut phase waits due waiter => exact .inl ⟨retreat_endCall e c _, hnone waiter⟩
  | conclude phase remover cause => exact .inl ⟨retreat_concludeRemoval e c _, hnone remover⟩
  | subscribed phase subscriber cause =>
    exact .inl ⟨retreat_endCall e c _, hphase phase fun _ => Call.Phase.noConfusion⟩
  | restored phase =>
    exact .inl ⟨retreat_endCall e c _, hphase phase fun _ => Call.Phase.noConfusion⟩
  | crash phase =>
    refine .inl ⟨retreat_endCall e c _, ?_⟩
    rcases phase with ⟨watched, phase⟩ | ⟨error, watched, phase⟩
    · exact hphase phase fun _ => Call.Phase.noConfusion
    · exact hphase phase fun _ => Call.Phase.noConfusion
  | join phase ended =>
    exact .inl ⟨retreat_concludeDisconnect e c _, hphase phase fun _ => Call.Phase.noConfusion⟩

theorem announced_or_owing_callMove {c : Nat} {call : Call} (hcall : e.calls[c]? = some call)
    (hmove : CallMove e c call e') (he : Announced e ∨ Owing e) : Announced e' ∨ Owing e' := by
  rcases retreat_or_settles_callMove hmove with ⟨hretreat, hnot⟩ | hsettles
  · refine hretreat.announced_or_owing (fun call' hcall' => ?_) he
    cases hcall.symm.trans hcall'
    exact hnot
  · exact .inl hsettles.announced

/-- A worker that goes on announces nothing and makes nothing due, or leaves nothing unannounced:
with the session that it establishes it announces what is due. -/
theorem quiet_or_settles_workerMove {w : Nat} {k : Worker} (h : WorkerMove e w k e') :
    Quiet e e' ∨ Settles e e' := by
  -- of the moves of a worker only a greeting makes something due: it is announced (`announce`), or
  -- there is nothing (`establish`)
  cases h with
  | finish cancelled =>
    exact .inl ((quiet_resetSession e k.epoch).trans (quiet_setWorker _ w _))
  | attempt live phase =>
    have hconnection := quiet_setConnection e .connecting k.epoch
    exact .inl ((hconnection.trans (quiet_note _ rfl)).trans (quiet_setWorker _ w _))
  | read live phase =>
    have hconnection := quiet_setConnection e .streaming k.epoch
    let e₁ := e.setConnection .streaming k.epoch
    have hopened : Quiet e₁ (note { e₁ with streams := e₁.streams + 1 } (.opened w e₁.streams)) :=
      ⟨rfl, .inl rfl, posts_note { e₁ with streams := e₁.streams + 1 } rfl⟩
    exact .inl ((hconnection.trans hopened).trans (quiet_setWorker _ w _))
  | lose live phase =>
    have hreset := (quiet_resetSession e k.epoch).trans
      (quiet_setConnection _ .reconnecting k.epoch)
    exact .inl ((hreset.trans (quiet_notifyLost _ w)).trans (quiet_setWorker _ w _))
  | crash live phase => exact .inl (quiet_setWorker e w _)
  | take live phase next => exact .inl (quiet_setWorker e w _)
  | @deliver live body phase record after next plain =>
    have hread : Quiet e (e.note (.read w body.serial record)) := quiet_note e rfl
    exact .inl ((hread.trans (quiet_dispatch _ w record)).trans (quiet_setWorker _ w _))
  | passOver live phase next greeting late =>
    exact .inl ((quiet_note e rfl).trans (quiet_setWorker _ w _))
  | @announce live body phase record after next clientId greeting current due =>
    right
    obtain ⟨hposts, hlast, -⟩ : Announces _ _ (.worker w) _ _ := announces_note due
    -- the greeting itself is no announcement
    rw [posts_greeted] at hposts
    exact .announce (.worker w) clientId e.registry.activeTopics ⟨hposts, hlast, due⟩
  | @establish live body phase record after next clientId greeting current nothing =>
    right
    have hconnected := quiet_notifyConnected (e.greeted w body.serial record clientId) w clientId
    have hposts := hconnected.posts.trans (posts_greeted e w body.serial record clientId)
    exact .idle (hconnected.announcement?_eq_none nothing) hposts
  | greet live phase survives =>
    exact .inl ((quiet_notifyConnected e w _).trans (quiet_setWorker _ w _))

/-- A call that is added announces nothing before it goes on. -/
theorem announced_or_owing_addCall (request : Request) (borrows : Bool)
    (registered : Option (String × ListenerId)) (phase : Call.Phase)
    (he : Announced e ∨ Owing e) :
    Announced (e.addCall request borrows registered phase) ∨
      Owing (e.addCall request borrows registered phase) := by
  have hquiet : Quiet e (e.addCall request borrows registered phase) := ⟨rfl, .inl rfl, rfl⟩
  exact hquiet.announced_or_owing
    (fun _ call hcall howes => ⟨call, getElem?_addCall hcall _ _ _ _, howes⟩) he

/-- The beginning of a call keeps the invariant: a subscription owes an announcement from then on,
and a removal announces what is left. -/
theorem announced_or_owing_beginCall (request : Request) (borrows : Bool)
    (he : Announced e ∨ Owing e) :
    Announced (e.beginCall request borrows) ∨ Owing (e.beginCall request borrows) := by
  -- a call that has been added without waiting for the greeting owes nothing
  have hnot {e₀ : Engine} {request : Request} {outcome : Outcome} (call : Call)
      (hcall : (e₀.addCall request borrows none (.ended outcome)).calls[e₀.calls.length]? =
        some call) : ¬ call.Owes := by
    rw [getElem?_addCall_length] at hcall
    cases hcall
    rintro ⟨⟨deadline, hawaiting⟩, -⟩
    cases hawaiting
  cases request with
  | subscribe topic options listener =>
    simp only [beginCall]
    split
    · refine Quiet.announced_or_owing (quiet_note _ rfl) (fun c call hcall howes => ?_)
        (announced_or_owing_addCall _ borrows none _ he)
      exact ⟨call, hcall, howes⟩
    · -- whatever the session is, the new call owes an announcement
      exact .inr ⟨_, _, getElem?_addCall_length _ _ _ _ _, ⟨_, rfl⟩, rfl⟩
  | ensureConnected patience =>
    refine announced_or_owing_addCall _ borrows none _ ?_
    refine (quiet_ensureWorker e).announced_or_owing (fun c call hcall howes => ?_) he
    exact ⟨call, by rw [calls_ensureWorker, hcall], howes⟩
  | disconnect =>
    exact (retreat_beginDisconnect _ e.calls.length .done).announced_or_owing hnot
      (announced_or_owing_addCall _ borrows none _ he)
  | remove what =>
    exact .inl (settles_announceFor _ _ (retreat_concludeRemoval _ _ _).toQuiet).announced

/-- A call that owes an announcement does so after a change that leaves it what it owes. -/
theorem owes_of_modify {calls : List Call} {f : Call → Call} (c : Nat)
    (hf : ∀ call : Call, call.Owes → (f call).Owes) {c' : Nat} {call : Call}
    (hcall : calls[c']? = some call) (howes : call.Owes) :
    ∃ call', (calls.modify c f)[c']? = some call' ∧ call'.Owes := by
  rw [List.getElem?_modify, hcall]
  by_cases hc : c = c'
  · refine ⟨f call, ?_, hf call howes⟩
    simp [hc]
  · refine ⟨call, ?_, howes⟩
    simp [hc]

/-- Every step keeps the invariant: either what is due has been announced last, or a subscription
waits for the greeting and will announce. -/
theorem announced_or_owing_step {action : Action} (h : e.step action = some e')
    (he : Announced e ∨ Owing e) : Announced e' ∨ Owing e' := by
  -- what announces nothing and leaves the calls as they are keeps the invariant
  have hkeep {e' : Engine} (hquiet : Quiet e e') (hcalls : e'.calls = e.calls) :
      Announced e' ∨ Owing e' :=
    hquiet.announced_or_owing (fun c call hcall howes => ⟨call, hcalls ▸ hcall, howes⟩) he
  cases stepMove_of_step h with
  | start alive request => exact announced_or_owing_beginCall request true he
  | @closeHandle c key id handle =>
    have hquiet : Quiet e (e.useHandle c) := ⟨rfl, .inl rfl, rfl⟩
    refine announced_or_owing_beginCall _ false
      (hquiet.announced_or_owing (fun c' call hcall howes => ?_) he)
    refine owes_of_modify c (fun call howes => ?_) hcall howes
    exact ⟨howes.1, howes.2⟩
  | worker present running move =>
    rcases quiet_or_settles_workerMove move with hquiet | hsettles
    · exact hkeep hquiet (frame_of_workerMove move).calls
    · exact .inl hsettles.announced
  | call present move => exact announced_or_owing_callMove present move he
  | @answer task awaited answer =>
    have hquiet : Quiet e (e.giveAnswer task answer) := quiet_giveAnswer e task answer
    refine hquiet.announced_or_owing (fun c call hcall howes => ?_) he
    cases task with
    | worker w => exact ⟨call, hcall, howes⟩
    | call c' =>
      -- an answer does not concern a call that waits for the greeting
      refine owes_of_modify c' (fun call howes => ?_) hcall howes
      obtain ⟨⟨deadline, hawaiting⟩, hsome⟩ := howes
      exact ⟨⟨deadline, by rw [hawaiting]; rfl⟩, hsome⟩
  | arrive isOpen item =>
    exact hkeep ⟨rfl, .inl rfl, posts_note (e.mapStream _ (·.arrive item)) rfl⟩ rfl
  | finish isOpen =>
    exact hkeep ⟨rfl, .inl rfl, posts_note (e.mapStream _ Body.finish) rfl⟩ rfl
  | dropWorker alive free taken =>
    have hquiet := quiet_of_takeWorker _ taken
    have hcalls := calls_of_takeWorker _ taken
    exact hkeep ⟨hquiet.registry, hquiet.session, hquiet.posts⟩ hcalls
  | tick | dropClient | setCredential | observeConnect | observeDisconnect =>
    exact hkeep ⟨rfl, .inl rfl, rfl⟩ rfl

end Invariant

/-! ### Reachable states -/

/-- In every reachable state what is due has been announced last, or a subscription waits for the
greeting and will announce. -/
theorem announced_or_owing_of_reachable {settings : Settings} {credential : Option String}
    {e : Engine} (he : Reachable settings credential e) : Announced e ∨ Owing e := by
  induction he with
  | initial => exact .inl (announced_of_none rfl)
  | step action before happens ih => exact announced_or_owing_step happens ih

/-- Where nothing can go on and the session is ready, no call waits for the greeting. -/
theorem not_owing_of_quiescent {e : Engine} (hquiescent : Quiescent e) (hready : e.ready = true) :
    ¬ Owing e := by
  rintro ⟨c, call, hcall, ⟨deadline, hphase⟩, hsome⟩
  obtain ⟨⟨key, id⟩, hregistered⟩ := Option.isSome_iff_exists.1 hsome
  have hstep := hquiescent (.call c) true
  -- the flag is up, so that the call can go on
  simp only [step, resume, resumeCall, hcall, hphase, continueAwaiting, if_pos hready,
    hregistered] at hstep
  cases hstep

/-- Where nothing can go on and the session is ready, what is due has been announced last. -/
theorem announced_of_quiescent {settings : Settings} {credential : Option String} {e : Engine}
    (he : Reachable settings credential e) (hquiescent : Quiescent e)
    (hready : e.session.ready = true) : Announced e := by
  have hflag : e.ready = true := (sessionInv_of_reachable he).ready.trans hready
  exact (announced_or_owing_of_reachable he).resolve_right
    (not_owing_of_quiescent hquiescent hflag)

/-- However additions, removals and undone registrations interleave with greetings, teardowns and
other calls: where nothing can go on, the session can register and there is a topic, the last
announcement that any task has sent carries the client id of the session and the active topics,
which are those with a listener. -/
theorem last_post_of_quiescent {settings : Settings} {credential : Option String} {e : Engine}
    (he : Reachable settings credential e) (hquiescent : Quiescent e)
    (hsession : e.session.canRegister = true) (htopics : e.registry.isEmpty = false) :
    e.posts.getLast? =
        some (announcementRequest e.session.clientId e.registry.activeTopics) ∧
      ∀ topic, topic ∈ e.registry.activeTopics ↔ e.registry.entries topic ≠ [] := by
  refine ⟨?_, fun topic => e.registry.mem_activeTopics⟩
  have hdue := announcement?_of_topics (wellFormed_of_reachable he) hsession htopics
  exact announced_of_quiescent he hquiescent (Bool.and_eq_true_iff.1 hsession).1 _ _ hdue

/-- Two subscriptions and a greeting, of which each announces both topics. The announcement of the
first subscription fails, which then announces what is left. -/
def undoneSubscription : List Action :=
  [.start (.subscribe "news" .none (.sample "first" false))] ++
    openingActions 0 0 (greetingBytes "c1") ++
    [.start (.subscribe "sport" .none (.sample "second" false)), .resume (.worker 0) true,
      .resume (.call 0) true, .resume (.call 1) true, .answer (.call 1) .success,
      .resume (.call 1) true, .answer (.call 0) (.failure (.other "refused")),
      .resume (.call 0) true, .answer (.call 0) .success, .resume (.call 0) true]

/-- At the end the topic that is left has been announced last. -/
theorem last_post_of_undoneSubscription :
    ∃ e, (Engine.initial .sample none).run undoneSubscription = some e ∧ Quiescent e ∧
      e.registry.activeTopics = ["sport"] ∧
      e.posts.getLast? = some (announcementRequest "c1" ["sport"]) := by
  obtain ⟨e, hrun, hend⟩ := exists_run (.initial .sample none) undoneSubscription
    (fun e => e.isQuiescent && e.session = ⟨"c1", true⟩ && !e.registry.isEmpty &&
      e.registry.activeTopics = ["sport"]) (by decide +kernel)
  simp only [Bool.and_eq_true, decide_eq_true_eq, Bool.not_eq_true'] at hend
  obtain ⟨⟨⟨hquiescent, hsession⟩, htopics⟩, hactive⟩ := hend
  have hpost := last_post_of_quiescent (Reachable.initial.run hrun) (quiescent_iff.2 hquiescent)
    (by rw [hsession]; decide) htopics
  rw [hactive, hsession] at hpost
  exact ⟨e, hrun, quiescent_iff.2 hquiescent, hactive, hpost.1⟩

end TopicStream.Engine
