import Mathlib.Data.List.Forall2
import TopicStream.Proofs.Credential.Store
import TopicStream.Proofs.Engine.Notes
import TopicStream.Proofs.Http.Message

/-!
# Which credentials leave the client

A credential reaches the network in two ways: with each stream that a worker asks for, and with each
single request, among them the announcements. Both look at the store at that very moment, so that a
token counts from when it is saved until it is replaced, cleared or has expired.

A client is an engine together with the transport that it uses and the store of that transport
(`Client`). The store may be changed and time may pass between any two steps of the engine. All
messages that are handed to the network are kept.

## Main results

* `headers_step`: a step of an engine asks for one stream at most, with the headers of that moment;
* `Client.sent_of_run`: what a step of a client sends, told from the history of its store;
* `Client.Matches.run`: clients whose stores differ in invalid tokens only send the same;
* `Client.only_valid_credentials`: all of it together.
-/

namespace TopicStream

namespace Engine

/-- Only a worker asks for streams. -/
theorem Event.headers?_eq_none {event : Event} (h : ∀ w, event.task? ≠ some (.worker w)) :
    event.headers? = none := by
  cases event with
  | requested w headers => exact absurd rfl (h w)
  | _ => rfl

/-- A step asks for one stream at most, with the headers that are due at that moment. -/
theorem headers_step {e e' : Engine} {action : Action} (h : e.step action = some e') :
    ∃ more, e'.events = e.events ++ more ∧
      (more.filterMap Event.headers? = [] ∨
        more.filterMap Event.headers? = [e.streamHeaders]) := by
  have hothers (hnot : ∀ w, action.task? e ≠ some (.worker w)) :
      ∃ more, e'.events = e.events ++ more ∧ (more.filterMap Event.headers? = [] ∨
        more.filterMap Event.headers? = [e.streamHeaders]) := by
    obtain ⟨more, htrace, -, htask, -⟩ := notes_of_step h
    refine ⟨more, events_of_trace htrace,
      .inl (List.filterMap_eq_nil_iff.2 fun event hevent => ?_)⟩
    refine Event.headers?_eq_none fun w hworker => ?_
    rcases htask event hevent with hnobody | hsame
    · cases hnobody.symm.trans hworker
    · exact hnot w (hsame.symm.trans hworker)
  cases action with
  | resume task preferAnswer =>
    cases task with
    | worker w =>
      obtain ⟨k, -, -, hmove⟩ := workerMove_resumeWorker h
      obtain ⟨more, hnotes, -, hheaders⟩ := exists_notes_of_workerMove hmove
      exact ⟨more, hnotes.events, hheaders⟩
    | call c => exact hothers (by simp [Action.task?])
  | answer task answer =>
    -- what is handed to a worker is no doing of the worker
    cases stepMove_of_step h with
    | answer awaited answer => exact ⟨_, (notes_giveAnswer e task answer).events, .inl rfl⟩
  | _ => exact hothers (by simp [Action.task?])

end Engine

/-! ### Clients -/

open Engine

/-- An engine and the transport that it uses. -/
structure Client where
  /-- The transport. -/
  transport : Http.Transport
  /-- Its credential store. -/
  store : Credential.Store
  /-- The time by which credentials are judged, in seconds. -/
  clock : Int
  /-- The engine. -/
  engine : Engine
  /-- The messages that have been handed to the network, in order. -/
  wire : List Http.Message

namespace Client

/-- Something that can happen next. -/
inductive Action where
  /-- An action of the engine. -/
  | act (action : Engine.Action)
  /-- The user sends a single request. -/
  | send (path : String) (request : Http.Request)
  /-- An operation on the credential store. -/
  | credential (operation : Credential.Operation)
  /-- The clock is at another time. -/
  | clock (now : Int)

/-- A client before the first call. -/
def start (t : Http.Transport) (connectTimeout reconnectDelay : Nat) (store : Credential.Store)
    (now : Int) : Client where
  transport := t
  store
  clock := now
  engine := .initial ⟨t.url Http.realtimePath, t.lang, t.userAgent, connectTimeout, reconnectDelay⟩
    none
  wire := []

/-- The credential that the transport exposes. -/
def exposed (c : Client) : Option String := c.store.validToken? c.clock

/-- The message by which something happens, if one is sent for it. -/
def message? (c : Client) : Event → Option Http.Message
  | .requested _ headers => some (c.transport.streamMessage Http.realtimePath headers)
  | .announced _ clientId topics =>
    some (c.transport.requestMessage c.store c.clock Http.realtimePath
      (announcementRequest clientId topics))
  | _ => none

/-- The engine as it finds the credential that is exposed at that moment. -/
def informed (c : Client) : Engine := { c.engine with credential := c.exposed }

/-- A client whose engine has come to a state, and has sent what this takes. -/
def advance (c : Client) (e : Engine) : Client :=
  { c with
    engine := e
    wire := c.wire ++ (e.events.drop c.engine.events.length).filterMap c.message? }

/-- What an action leads to; nothing if it cannot happen. -/
def step (c : Client) : Action → Option Client
  | .act action => (c.informed.step action).map c.advance
  | .send path request =>
    some { c with
      wire := c.wire ++ [c.transport.requestMessage c.store c.clock path request] }
  | .credential operation => some { c with store := (c.store.perform operation).2 }
  | .clock now => some { c with clock := now }

/-- What a list of actions leads to; nothing if one of them cannot happen. -/
def run (c : Client) : List Action → Option Client
  | [] => some c
  | action :: actions => (c.step action).bind fun c' => c'.run actions

/-! ### What the history of a store says -/

/-- The token that an action leaves in the store, if it changes it. -/
def Action.token? : Action → Option String
  | .credential operation => operation.change?.map (·.1)
  | _ => none

/-- The time to which an action sets the clock. -/
def Action.clock? : Action → Option Int
  | .clock now => some now
  | _ => none

/-- The token that has been saved last, before which there was the given one. -/
def tokenAfter (token : String) (actions : List Action) : String :=
  (actions.filterMap Action.token?).getLastD token

/-- The time of the clock, which was at the given one. -/
def clockAfter (now : Int) (actions : List Action) : Int :=
  (actions.filterMap Action.clock?).getLastD now

/-- The token that has been saved last, if it is valid at the time of the clock. -/
def exposedAfter (token : String) (now : Int) (actions : List Action) : Option String :=
  if Credential.isValid (tokenAfter token actions) (clockAfter now actions) then
    some (tokenAfter token actions)
  else none

theorem tokenAfter_cons (token : String) (action : Action) (actions : List Action) :
    tokenAfter token (action :: actions) = tokenAfter (action.token?.getD token) actions := by
  unfold tokenAfter
  rw [List.filterMap_cons]
  cases action.token? with
  | none => rfl
  | some token' => exact List.getLastD_cons ..

theorem clockAfter_cons (now : Int) (action : Action) (actions : List Action) :
    clockAfter now (action :: actions) = clockAfter (action.clock?.getD now) actions := by
  unfold clockAfter
  rw [List.filterMap_cons]
  cases action.clock? with
  | none => rfl
  | some now' => exact List.getLastD_cons ..

/-- An operation leaves the token that it brings, or the one that was there. -/
theorem token_perform (s : Credential.Store) (operation : Credential.Operation) :
    (s.perform operation).2.token = (operation.change?.map (·.1)).getD s.token := by
  cases operation with
  | save token record =>
    rw [Credential.Store.perform, Credential.Store.save, Credential.Store.notify_eq]
    rfl
  | clear =>
    rw [Credential.Store.perform, Credential.Store.clear, Credential.Store.save,
      Credential.Store.notify_eq]
    rfl
  | register | unregister => rfl

section Steps

variable {c c' : Client} {action : Action} {actions : List Action}

/-- What a step does apart from sending messages. -/
structure Moves (c c' : Client) (action : Action) : Prop where
  /-- The transport stays the same. -/
  transport : c'.transport = c.transport
  /-- The store holds the token that the action leaves. -/
  token : c'.store.token = action.token?.getD c.store.token
  /-- The clock is at the time to which the action sets it. -/
  clock : c'.clock = action.clock?.getD c.clock
  /-- The engine keeps its settings. -/
  settings : c'.engine.settings = c.engine.settings

theorem moves_of_step (h : c.step action = some c') : Moves c c' action := by
  cases action with
  | act action =>
    obtain ⟨e', hstep, rfl⟩ := Option.map_eq_some_iff.1 h
    obtain ⟨more, -, hsettings, -⟩ := notes_of_step hstep
    exact ⟨rfl, rfl, rfl, hsettings⟩
  | send path request =>
    cases h
    exact ⟨rfl, rfl, rfl, rfl⟩
  | credential operation =>
    cases h
    exact ⟨rfl, token_perform c.store operation, rfl, rfl⟩
  | clock now =>
    cases h
    exact ⟨rfl, rfl, rfl, rfl⟩

/-- After a run the store and the clock are as the history says. -/
theorem follows_of_run (h : c.run actions = some c') :
    c'.transport = c.transport ∧ c'.store.token = tokenAfter c.store.token actions ∧
      c'.clock = clockAfter c.clock actions ∧ c'.engine.settings = c.engine.settings := by
  induction actions generalizing c with
  | nil =>
    cases h
    exact ⟨rfl, rfl, rfl, rfl⟩
  | cons action actions ih =>
    obtain ⟨c₁, hstep, hrest⟩ := Option.bind_eq_some_iff.1 h
    have hmoves := moves_of_step hstep
    obtain ⟨htransport, htoken, hclock, hsettings⟩ := ih hrest
    rw [tokenAfter_cons, clockAfter_cons, ← hmoves.token, ← hmoves.clock]
    exact ⟨htransport.trans hmoves.transport, htoken, hclock, hsettings.trans hmoves.settings⟩

end Steps

/-! ### What is sent -/

/-- What a client sends with an action while its transport exposes a credential, or none. -/
inductive Sent (t : Http.Transport) (exposed : Option String) : Action → Http.Message → Prop
  /-- A worker asks for a stream, with four headers and the credential. -/
  | stream (action : Engine.Action) :
      Sent t exposed (.act action) (t.streamMessage Http.realtimePath
        ([("Accept", "text/event-stream"), ("Cache-Control", "no-store"),
          ("Accept-Language", t.lang), ("User-Agent", t.userAgent)] ++
          (exposed.map ("Authorization", ·)).toList))
  /-- Topics are announced, with the headers of the client and the credential. -/
  | announcement (action : Engine.Action) {clientId : String} {topics : List String}
      {m : Http.Message} (body : m.body = some (announcementBody clientId topics))
      (headers : m.headers = t.requestHeaders exposed []) :
      Sent t exposed (.act action) m
  /-- The user sends a single request, with its own headers besides. -/
  | request {path : String} {r : Http.Request} {m : Http.Message} (body : m.body = r.body)
      (headers : m.headers = t.requestHeaders exposed r.headers.members) :
      Sent t exposed (.send path r) m

/-- The credentials that go with an action: those that a single request brings, or else the one that
is exposed. -/
def Action.credentials (exposed : Option String) : Action → List String
  | .send _ r =>
    if Http.authorizations r.headers.members = [] then exposed.toList
    else Http.authorizations r.headers.members
  | _ => exposed.toList

/-- A message carries the credentials that go with its action, and no others. -/
theorem Sent.authorizations {t : Http.Transport} {exposed : Option String} {action : Action}
    {m : Http.Message} (h : Sent t exposed action m) :
    Http.authorizations m.headers = action.credentials exposed := by
  cases h with
  | stream action =>
    have hnames : ∀ name ∈ ["Accept", "Cache-Control", "Accept-Language", "User-Agent"],
        Http.sameName Http.Transport.authorization name = false := by decide
    have hfour : Http.authorizations [("Accept", "text/event-stream"),
        ("Cache-Control", "no-store"), ("Accept-Language", t.lang),
        ("User-Agent", t.userAgent)] = [] := Http.authorizations_eq_nil_iff.2 hnames
    change Http.authorizations (_ ++ _) = exposed.toList
    rw [Http.authorizations_append, hfour, List.nil_append]
    exact Http.authorizations_exposed (by decide) exposed
  | announcement action body headers =>
    rw [headers, Http.Transport.authorizations_requestHeaders]
    rfl
  | request body headers =>
    rw [headers, Http.Transport.authorizations_requestHeaders]
    rfl

section Step

variable {c c' : Client} {action : Action}

/-- What is sent by a step goes with the credential that is exposed at that moment. -/
theorem sent_of_step (h : c.step action = some c')
    (hlang : c.engine.settings.lang = c.transport.lang)
    (hagent : c.engine.settings.userAgent = c.transport.userAgent) :
    ∃ more, c'.wire = c.wire ++ more ∧ ∀ m ∈ more, Sent c.transport c.exposed action m := by
  cases action with
  | act action =>
    obtain ⟨e', hstep, rfl⟩ := Option.map_eq_some_iff.1 h
    obtain ⟨more, hevents, hheaders⟩ := headers_step hstep
    -- the exposed credential is no part of what has happened
    have hnew : e'.events.drop c.engine.events.length = more := by
      rw [hevents]
      exact List.drop_left
    refine ⟨_, rfl, fun m hm => ?_⟩
    rw [hnew] at hm
    obtain ⟨event, hevent, hmessage⟩ := List.mem_filterMap.1 hm
    cases event with
    | requested w headers =>
      -- the headers are those that the engine owes with the exposed credential
      have hasked : headers ∈ more.filterMap Event.headers? :=
        List.mem_filterMap.2 ⟨_, hevent, rfl⟩
      rcases hheaders with hnone | hone
      · rw [hnone] at hasked
        cases hasked
      · rw [hone] at hasked
        cases List.mem_singleton.1 hasked
        cases hmessage
        have hstream : c.informed.streamHeaders =
            [("Accept", "text/event-stream"), ("Cache-Control", "no-store"),
              ("Accept-Language", c.transport.lang), ("User-Agent", c.transport.userAgent)] ++
              (c.exposed.map ("Authorization", ·)).toList := by
          rw [← hlang, ← hagent]
          rfl
        rw [hstream]
        exact .stream action
    | announced task clientId topics =>
      cases hmessage
      exact .announcement action rfl (c.transport.headers_requestMessage _ _ c.store c.clock)
    | _ => cases hmessage
  | send path request =>
    cases h
    refine ⟨_, rfl, List.forall_mem_singleton.2 ?_⟩
    exact .request rfl (c.transport.headers_requestMessage path request c.store c.clock)
  | credential operation =>
    cases h
    exact ⟨[], (List.append_nil _).symm, nofun⟩
  | clock now =>
    cases h
    exact ⟨[], (List.append_nil _).symm, nofun⟩

end Step

/-- Along a run what is sent goes with the history of the store and of the clock. -/
theorem sent_of_run {t : Http.Transport} {connectTimeout reconnectDelay : Nat}
    {store : Credential.Store} {now : Int} {c c' : Client} {action : Action}
    {actions : List Action}
    (hrun : (start t connectTimeout reconnectDelay store now).run actions = some c)
    (hstep : c.step action = some c') :
    ∃ more, c'.wire = c.wire ++ more ∧
      ∀ m ∈ more, Sent t (exposedAfter store.token now actions) action m := by
  obtain ⟨htransport, htoken, hclock, hsettings⟩ := follows_of_run hrun
  have hlang : c.engine.settings.lang = c.transport.lang := by
    rw [hsettings, htransport]
    rfl
  have hagent : c.engine.settings.userAgent = c.transport.userAgent := by
    rw [hsettings, htransport]
    rfl
  have hexposed : c.exposed = exposedAfter store.token now actions := by
    rw [exposed, Credential.Store.validToken?, Credential.Store.isValid, htoken, hclock]
    rfl
  obtain ⟨more, hwire, hsent⟩ := sent_of_step hstep hlang hagent
  refine ⟨more, hwire, fun m hm => ?_⟩
  have hm := hsent m hm
  rw [htransport, hexposed] at hm
  exact hm

/-! ### Clients whose stores differ -/

/-- Two tokens are the same, or neither is valid at a time. -/
def Alike (now : Int) (token token' : String) : Prop :=
  token = token' ∨ Credential.isValid token now = false ∧ Credential.isValid token' now = false

instance {now : Int} {token token' : String} : Decidable (Alike now token token') :=
  inferInstanceAs (Decidable (_ ∨ _))

/-- Two actions are the same, but for what they do with the store. -/
inductive Action.Corresponds : Action → Action → Prop
  /-- They are the same. -/
  | same (action : Action) : Corresponds action action
  /-- Both are operations on the store. -/
  | credential (operation operation' : Credential.Operation) :
      Corresponds (.credential operation) (.credential operation')

/-- Two clients are the same but for their stores. -/
structure Matches (c d : Client) : Prop where
  /-- They have the same transport. -/
  transport : d.transport = c.transport
  /-- Their clocks are at the same time. -/
  clock : d.clock = c.clock
  /-- They have the same engine. -/
  engine : d.engine = c.engine
  /-- They have sent the same messages. -/
  wire : d.wire = c.wire

section Alike

variable {c d c' : Client} {action action' : Action} {actions actions' : List Action}

/-- Of tokens that are alike the same is exposed. -/
theorem Matches.exposed_eq (h : Matches c d) (halike : Alike c.clock c.store.token d.store.token) :
    d.exposed = c.exposed := by
  unfold exposed Credential.Store.validToken? Credential.Store.isValid
  rw [h.clock]
  rcases halike with heq | ⟨hinvalid, hinvalid'⟩
  · rw [heq]
  · rw [hinvalid, hinvalid']
    rfl

/-- Where the same is exposed, the same message is sent. -/
theorem Matches.message?_eq (h : Matches c d) (hexposed : d.exposed = c.exposed) :
    d.message? = c.message? := by
  funext event
  cases event with
  | announced task clientId topics =>
    simp only [message?, h.transport]
    rw [Http.Transport.requestMessage_congr _ _ _ hexposed]
  | _ => simp only [message?, h.transport]

/-- Clients with stores that are alike take corresponding steps together. -/
theorem Matches.step (h : Matches c d) (halike : Alike c.clock c.store.token d.store.token)
    (hcorresponds : action.Corresponds action') (hstep : c.step action = some c') :
    ∃ d', d.step action' = some d' ∧ Matches c' d' := by
  have hexposed := h.exposed_eq halike
  cases hcorresponds with
  | credential operation operation' =>
    cases hstep
    exact ⟨_, rfl, h.transport, h.clock, h.engine, h.wire⟩
  | same action =>
    cases action with
    | act action =>
      obtain ⟨e', hgoes, rfl⟩ := Option.map_eq_some_iff.1 hstep
      have hinformed : d.informed = c.informed := by
        rw [informed, informed, h.engine, hexposed]
      have hgoes' : d.step (.act action) = some (d.advance e') := by
        rw [Client.step, hinformed, hgoes]
        rfl
      refine ⟨_, hgoes', h.transport, h.clock, rfl, ?_⟩
      simp only [advance, h.wire, h.engine, h.message?_eq hexposed]
    | send path request =>
      cases hstep
      refine ⟨_, rfl, h.transport, h.clock, h.engine, ?_⟩
      have hsame := Http.Transport.requestMessage_congr c.transport path request hexposed
      simp only [h.wire, h.transport, hsame]
    | credential operation =>
      cases hstep
      exact ⟨_, rfl, h.transport, h.clock, h.engine, h.wire⟩
    | clock now =>
      cases hstep
      exact ⟨_, rfl, h.transport, rfl, h.engine, h.wire⟩

/-- Clients with stores that stay alike take corresponding runs together, and so send the same. -/
theorem Matches.run (h : Matches c d)
    (hcorresponds : List.Forall₂ Action.Corresponds actions actions')
    (halike : ∀ n ≤ actions.length, Alike (clockAfter c.clock (actions.take n))
      (tokenAfter c.store.token (actions.take n)) (tokenAfter d.store.token (actions'.take n)))
    (hrun : c.run actions = some c') : ∃ d', d.run actions' = some d' ∧ Matches c' d' := by
  induction hcorresponds generalizing c d with
  | nil =>
    cases hrun
    exact ⟨d, rfl, h⟩
  | @cons action action' actions actions' hfirst hrest ih =>
    obtain ⟨c₁, hstep, hrun₁⟩ := Option.bind_eq_some_iff.1 hrun
    obtain ⟨d₁, hstep', h₁⟩ := h.step (halike 0 (Nat.zero_le _)) hfirst hstep
    have hmoves := moves_of_step hstep
    have hmoves' := moves_of_step hstep'
    -- the tokens after the first action are alike as those of the longer history
    have hlater (n : Nat) (hn : n ≤ actions.length) :
        Alike (clockAfter c₁.clock (actions.take n)) (tokenAfter c₁.store.token (actions.take n))
          (tokenAfter d₁.store.token (actions'.take n)) := by
      have hlonger := halike (n + 1) (Nat.succ_le_succ hn)
      rw [List.take_succ_cons, List.take_succ_cons, tokenAfter_cons, tokenAfter_cons,
        clockAfter_cons, ← hmoves.token, ← hmoves'.token, ← hmoves.clock] at hlonger
      exact hlonger
    obtain ⟨d', hrun', h'⟩ := ih h₁ hlater hrun₁
    refine ⟨d', ?_, h'⟩
    rw [Client.run, hstep']
    exact hrun'

end Alike

/-- Which credentials leave the client. To a single request the token of the store is added exactly
if it is valid at that moment and no header of the request has the name for it, in any case of its
letters; else the request carries the credentials that it brings. An engine asks for a stream with
four headers and, exactly if a credential is exposed at that step, with that credential. So each
message that a client sends goes with the token that was saved last before the step and with the
time of the clock at the step. Two clients that go through the same, but for tokens that are invalid
as long as they differ, send the same messages. -/
theorem only_valid_credentials :
    (∀ (t : Http.Transport) (store : Credential.Store) (now : Int) (path : String)
      (r : Http.Request),
      let m := t.requestMessage store now path r
      let brought := r.headers.members
      let adds := Credential.isValid store.token now = true ∧
        ∀ name ∈ r.headers.keys, Http.sameName "authorization" name = false
      (adds → m.headers = t.clientHeaders ++ ("authorization", store.token) :: brought ∧
        Http.authorizations m.headers = [store.token]) ∧
      (¬ adds → m.headers = t.clientHeaders ++ brought ∧
        Http.authorizations m.headers = Http.authorizations brought)) ∧
    (∀ settings credential e action e', Reachable settings credential e →
      e.step action = some e' →
      ∃ more, e'.events = e.events ++ more ∧
        (more.filterMap Event.headers? = [] ∨
          more.filterMap Event.headers? =
            [[("Accept", "text/event-stream"), ("Cache-Control", "no-store"),
              ("Accept-Language", settings.lang), ("User-Agent", settings.userAgent)] ++
              (e.credential.map ("Authorization", ·)).toList])) ∧
    (∀ t connectTimeout reconnectDelay store now actions c action c',
      (start t connectTimeout reconnectDelay store now).run actions = some c →
      c.step action = some c' →
      let exposed := exposedAfter store.token now actions
      ∃ more, c'.wire = c.wire ++ more ∧ ∀ m ∈ more, Sent t exposed action m ∧
        Http.authorizations m.headers = action.credentials exposed) ∧
    (∀ t connectTimeout reconnectDelay store store' now actions actions' c,
      List.Forall₂ Action.Corresponds actions actions' →
      (∀ n ≤ actions.length, Alike (clockAfter now (actions.take n))
        (tokenAfter store.token (actions.take n)) (tokenAfter store'.token (actions'.take n))) →
      (start t connectTimeout reconnectDelay store now).run actions = some c →
      ∃ c', (start t connectTimeout reconnectDelay store' now).run actions' = some c' ∧
        c'.wire = c.wire ∧ c'.engine = c.engine) := by
  refine ⟨fun t store now path r => ?_, fun settings credential e action e' he hstep => ?_,
    fun t connectTimeout reconnectDelay store now actions c action c' hrun hstep => ?_,
    fun t connectTimeout reconnectDelay store store' now actions actions' c hcorresponds halike
      hrun => ?_⟩
  · have hbrings : (∀ name ∈ r.headers.keys, Http.sameName "authorization" name = false) ↔
        Http.authorizations r.headers.members = [] := Http.authorizations_eq_nil_iff.symm
    intro m brought adds
    refine ⟨fun hadds => ?_, fun hnot => ?_⟩
    · exact Http.Transport.requestMessage_of_isValid t path r hadds.1 (hbrings.1 hadds.2)
    · refine Http.Transport.requestMessage_of_not_isValid t path r fun hadds => ?_
      exact hnot ⟨hadds.1, hbrings.2 hadds.2⟩
  · rw [← settings_of_reachable he]
    exact headers_step hstep
  · obtain ⟨more, hwire, hsent⟩ := sent_of_run hrun hstep
    exact ⟨more, hwire, fun m hm => ⟨hsent m hm, (hsent m hm).authorizations⟩⟩
  · have hmatches : Matches (start t connectTimeout reconnectDelay store now)
        (start t connectTimeout reconnectDelay store' now) := ⟨rfl, rfl, rfl, rfl⟩
    obtain ⟨c', hrun', hsame⟩ := hmatches.run hcorresponds halike hrun
    exact ⟨c', hrun', hsame.wire, hsame.engine⟩

/-- A token that is valid before the time 2000. -/
def validToken : String := "e30.eyJleHAiOjIwMDB9.c2ln"

/-- A worker asks for a stream, which cannot be opened, and pauses. -/
def refusedAttempt : List Action :=
  [.act (.resume (.worker 0) true), .act (.answer (.worker 0) (.failure (.other "down"))),
    .act (.resume (.worker 0) true)]

/-- A token that is none is saved, and then a worker makes three attempts. Before the second a valid
token is saved, and before the third it has expired. -/
def threeAttempts (noToken : String) : List Action :=
  .credential (.save noToken .null) :: .act (.start (.ensureConnected ⟨5, 0⟩)) ::
    (refusedAttempt ++ [.credential (.save validToken .null), .act (.tick 1000)] ++
      refusedAttempt ++ [.clock 2000, .act (.tick 2000)] ++ refusedAttempt)

/-- The second attempt alone carries a token, and all is sent alike whatever the text is that is no
token. A request that brings a credential keeps it, also while the token of the store is valid. -/
theorem only_valid_credentials_expired :
    let t : Http.Transport := ⟨"http://h", "en", "client"⟩
    ∃ c c', (start t 5000 1000 .empty 1000).run (threeAttempts "secret") = some c ∧
      (start t 5000 1000 .empty 1000).run (threeAttempts "guess") = some c' ∧
      c'.wire = c.wire ∧
      c.wire.map (fun m => Http.authorizations m.headers) = [[], [validToken], []] ∧
      Http.authorizations (t.requestMessage (.ofToken validToken) 1999 Http.realtimePath
        (Http.Request.plain.withHeader "AUTHORIZATION" "own")).headers = ["own"] := by
  intro t
  obtain ⟨hrequest, -, -, hpair⟩ := only_valid_credentials
  have hsent : ((start t 5000 1000 .empty 1000).run (threeAttempts "secret")).any
      (fun c => c.wire.map (fun m => Http.authorizations m.headers) =
        [[], [validToken], []]) = true := by decide +kernel
  obtain ⟨c, hrun, hwire⟩ := (Option.any_eq_true _ _).1 hsent
  obtain ⟨c', hrun', hsame, -⟩ := hpair t 5000 1000 .empty .empty 1000 (threeAttempts "secret")
    (threeAttempts "guess") c
    (.cons (.credential _ _) (List.forall₂_same.2 fun action _ => .same action))
    (by decide +kernel) hrun
  obtain ⟨-, hkeeps⟩ := hrequest t (.ofToken validToken) 1999 Http.realtimePath
    (Http.Request.plain.withHeader "AUTHORIZATION" "own")
  refine ⟨c, c', hrun, hrun', hsame, of_decide_eq_true hwire, ?_⟩
  refine (hkeeps ?_).2.trans (by decide)
  rintro ⟨-, hnone⟩
  exact absurd (hnone "AUTHORIZATION" (by decide)) (by decide)

end Client

end TopicStream
