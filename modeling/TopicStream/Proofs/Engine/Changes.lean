import TopicStream.Proofs.Engine.Delivery
import TopicStream.Proofs.Subscription.Change
import TopicStream.Proofs.Subscription.Collection

/-!
# Listeners to the records of a collection

A listener to a record is registered like any other, and is called like any other for each record
that is read under its topic key. It makes something of those payloads only that describe a change.

## Main results

* `filterMap_change?`: what a record that has been read comes to for a listener of changes;
* `changes_exact`: what comes to it along a run.
-/

namespace TopicStream.Engine

open Subscription TopicStream.Event

/-! ### Topic keys of records -/

/-- A record of a collection has a topic with a slash, whatever the options. -/
theorem slash_mem_topicKey (collection record : String) (options : Options) :
    '/' ∈ (options.topicKey (Collection.topic collection record)).toList :=
  Collection.slash_mem_of_holds (Collection.holds_topicKey collection record options)

/-- Greetings do not come under the topic key of a record. -/
theorem topicKey_ne_handshakeName (collection record : String) (options : Options) :
    options.topicKey (Collection.topic collection record) ≠ handshakeName := by
  intro heq
  have hslash := slash_mem_topicKey collection record options
  rw [heq] at hslash
  exact absurd hslash (by decide)

/-- A subscription to a record registers its listener. -/
theorem mem_entries_of_subscribe {e e' : Engine} {collection record name : String}
    {options : Options} {crashes : Bool} {request : Request}
    (hrequest : Collection.subscribe collection record options name crashes = .ok request)
    (hstart : e.step (.start request) = some e') :
    (⟨e.registry.issued + 1⟩, ⟨name, .change, crashes⟩) ∈
      e'.registry.entries (options.topicKey (Collection.topic collection record)) := by
  have htopic := Collection.topic_ne_empty collection record
  obtain rfl := Collection.eq_of_subscribe hrequest
  rw [step] at hstart
  split at hstart
  · obtain rfl := Option.some.inj hstart
    simp only [beginCall, if_neg htopic, addCall, registry_ensureWorker]
    rw [note, Registry.entries_add, if_pos rfl]
    exact List.mem_append_right _ (List.mem_singleton_self _)
  · cases hstart

/-! ### Calls of a listener -/

/-- The change that a listener is called with for a payload, if it makes something of it. -/
def Listener.change? (l : Listener) (payload : Json) : Option Change :=
  match l.form with
  | .payload => none
  | .change => (Change.ofJson payload).toOption

/-- The change that the listener with an id is called with, if this is what happens. -/
def Event.change? (id : ListenerId) : Event → Option Change
  | .delivered _ id' listener payload => if id' = id then listener.change? payload else none
  | _ => none

/-- Whether a record is read under a topic key while a listener is registered under it. -/
def Handling.Reaches (h : Handling) (key : String) (p : ListenerId × Listener) : Prop :=
  h.record.event = key ∧ p ∈ h.registry.entries key

instance (h : Handling) (key : String) (p : ListenerId × Listener) : Decidable (h.Reaches key p) :=
  inferInstanceAs (Decidable (_ ∧ _))

/-- A record that does not reach a listener does not call it: its id is registered under no other
topic, even after it has been removed. -/
theorem callee?_ne_of_not_reaches {r : Registry Listener} {h : Handling} (hr : r.WellFormed)
    (hregistry : RegistryRun r h.registry) {key : String} {p : ListenerId × Listener}
    (hmem : p ∈ r.entries key) (hnot : ¬ h.Reaches key p) :
    ∀ event ∈ h.log, event.callee? ≠ some p.1 := by
  rcases hregistry.mem_or_withdrawn hr hmem with hentry | hwithdrawn
  · have hname : h.record.event ≠ key := fun hname => hnot ⟨hname, hentry⟩
    refine List.forall_mem_cons.2 ⟨nofun, ?_⟩
    unfold Handling.calls
    split
    · exact nofun
    · refine List.forall_mem_map.2 fun q hq heq => hname ?_
      exact (hregistry.wellFormed hr).unique _ _ q p hq hentry (Option.some.inj heq)
  · exact callee?_ne_of_withdrawn hwithdrawn

theorem Event.change?_of_callee? {event : Event} {id : ListenerId} (h : event.callee? ≠ some id) :
    event.change? id = none := by
  cases event with
  | delivered w id' listener payload => exact if_neg fun heq => h (congrArg some heq)
  | _ => rfl

theorem filterMap_cons_eq_append {α β : Type} (f : α → Option β) (a : α) (as : List α) :
    (a :: as).filterMap f = (f a).toList ++ as.filterMap f := by
  rw [List.filterMap_cons]
  cases f a <;> rfl

/-- A record calls a listener that it reaches once, and no other record calls it. -/
theorem filterMap_change? {r : Registry Listener} {h : Handling} (hr : r.WellFormed)
    (hregistry : RegistryRun r h.registry) {key : String} (hkey : key ≠ handshakeName)
    {id : ListenerId} {listener : Listener} (hmem : (id, listener) ∈ r.entries key) :
    h.log.filterMap (Event.change? id) =
      if h.Reaches key (id, listener) then (listener.change? h.payload).toList else [] := by
  by_cases hreaches : h.Reaches key (id, listener)
  -- its calls are those of the log, and there is one
  · have hcalls : h.log.filterMap (Event.change? id) =
        (h.log.filter fun event => event.callee? = some id).filterMap (Event.change? id) := by
      rw [List.filterMap_filter]
      refine List.filterMap_congr fun event _ => ?_
      by_cases hcallee : event.callee? = some id
      · rw [if_pos (decide_eq_true hcallee)]
      · rw [if_neg (by simpa using hcallee), Event.change?_of_callee? hcallee]
    have hname := hreaches.1
    have hentry : (id, listener) ∈ h.registry.entries h.record.event := hname ▸ hreaches.2
    rw [if_pos hreaches, hcalls, filter_callee? (hregistry.wellFormed hr) hentry (hname ▸ hkey)]
    have hone : (Event.delivered h.worker id listener h.payload).change? id =
        listener.change? h.payload := if_pos rfl
    rw [filterMap_cons_eq_append, hone, List.filterMap_nil, List.append_nil]
  · rw [if_neg hreaches, List.filterMap_eq_nil_iff]
    exact fun event hevent =>
      Event.change?_of_callee? (callee?_ne_of_not_reaches hr hregistry hmem hreaches event hevent)

section Run

variable {e e' : Engine} {actions : List Action}

/-- Along a run, a listener is called with the changes that the payloads describe which reach it. -/
theorem changes_run (hrun : e.run actions = some e') (hr : e.registry.WellFormed) {key : String}
    (hkey : key ≠ handshakeName) {id : ListenerId} {listener : Listener}
    (hmem : (id, listener) ∈ e.registry.entries key) :
    (e'.readings.drop e.readings.length).filterMap (Event.change? id) =
      (((e.handlings actions).filter fun h => h.Reaches key (id, listener)).map
        Handling.payload).filterMap listener.change? := by
  rw [readings_run hrun, List.drop_left]
  have hall := fun h (hh : h ∈ e.handlings actions) =>
    filterMap_change? hr (registry_of_handling hrun hh).1 hkey hmem
  generalize e.handlings actions = handlings at hall
  induction handlings with
  | nil => rfl
  | cons h handlings ih =>
    obtain ⟨hfirst, hrest⟩ := List.forall_mem_cons.1 hall
    rw [List.flatMap_cons, List.filterMap_append, ih hrest, hfirst]
    by_cases hreaches : h.Reaches key (id, listener)
    · rw [if_pos hreaches, List.filter_cons_of_pos (by simpa using hreaches), List.map_cons,
        filterMap_cons_eq_append]
    · rw [if_neg hreaches, List.filter_cons_of_neg (by simpa using hreaches), List.nil_append]

end Run

/-- What the payload of a record is shows in the log only. -/
theorem handleRecord_payload (e : Engine) (w epoch : Nat) (record : Record) (body : Body)
    (hplain : record.event ≠ handshakeName) (payload : Option Json) :
    { e.handleRecord w epoch { record with payload } body with trace := [] } =
      { e.handleRecord w epoch record body with trace := [] } := by
  have hnone : ∀ payload, ({ record with payload } : Record).handshake? = none := fun _ =>
    if_neg hplain
  unfold handleRecord
  rw [hnone, show record.handshake? = none from hnone record.payload]
  -- that all listeners are called shows in the log only, whether they crash or not
  simp only [dispatch_eq]
  rfl

/-- A payload is made something of exactly if it describes a change. -/
theorem change?_eq_some_iff (name : String) (crashes : Bool) (payload : Json) (c : Change) :
    Listener.change? ⟨name, .change, crashes⟩ payload = some c ↔ Change.Describes payload c :=
  Json.toOption_eq_some_iff.trans Change.ofJson_eq_ok_iff

/-- What comes to a listener that has been registered for a record of a collection. It is called
with the changes that the payloads describe which are read under its topic key while it is
registered, in order and each once. A payload describes a change if it has one of the forms of
`Change.Describes`, and all others are passed over. Whatever the payload is, each listener
registered under the key is called for it, and the engine goes on in the same state. -/
theorem changes_exact {settings : Settings} {credential : Option String} {e e₁ e' : Engine}
    {collection record name : String} {options : Options} {crashes : Bool} {request : Request}
    {actions : List Action} (he : Reachable settings credential e)
    (hrequest : Collection.subscribe collection record options name crashes = .ok request)
    (hstart : e.step (.start request) = some e₁) (hrun : e₁.run actions = some e')
    {key : String} (hkey : key = options.topicKey (Collection.topic collection record))
    {id : ListenerId} (hid : id = ⟨e.registry.issued + 1⟩)
    {listener : Listener} (hlistener : listener = ⟨name, .change, crashes⟩) :
    (id, listener) ∈ e₁.registry.entries key ∧
    (e'.readings.drop e₁.readings.length).filterMap (Event.change? id) =
      (((e₁.handlings actions).filter fun h => h.Reaches key (id, listener)).map
        Handling.payload).filterMap listener.change? ∧
    (∀ payload c, listener.change? payload = some c ↔ Change.Describes payload c) ∧
    (∀ payload, listener.given? payload = (listener.change? payload).map Change.render) ∧
    e'.readings = e₁.readings ++ (e₁.handlings actions).flatMap Handling.log ∧
    (∀ h ∈ e₁.handlings actions, h.record.event = key →
      h.calls = (h.registry.entries key).map fun p => .delivered h.worker p.1 p.2 h.payload) ∧
    (∀ (e : Engine) (w epoch : Nat) (record : Record) (body : Body) (payload : Option Json),
      record.event = key →
      { e.handleRecord w epoch { record with payload } body with trace := [] } =
        { e.handleRecord w epoch record body with trace := [] }) := by
  have hplain : key ≠ handshakeName := hkey ▸ topicKey_ne_handshakeName collection record options
  have hwf := wellFormed_of_reachable (he.step _ hstart)
  subst hkey hid hlistener
  have hmem := mem_entries_of_subscribe hrequest hstart
  refine ⟨hmem, changes_run hrun hwf hplain hmem, change?_eq_some_iff name crashes,
    fun payload => rfl, readings_run hrun, fun h _ hname => ?_,
    fun e w epoch record body payload hname => ?_⟩
  · unfold Handling.calls
    rw [if_neg (hname ▸ hplain), hname]
  · exact handleRecord_payload e w epoch record body (hname ▸ hplain) payload

/-- A listener to all records of a collection. -/
def recordListener : Request :=
  .subscribe (Collection.topic "tasks" "*") .none ⟨"first", .change, false⟩

/-- Three records come under its topic key, of which the second describes no change. -/
def threePayloads : List Action :=
  openingActions 0 0 (Text.Utf8.encode
    ("event: tasks/*\ndata: \x7b\"by\":1,\"action\":\"create\",\"record\":7\x7d\n\n" ++
      "event: tasks/*\ndata: \x7b\"record\":7\x7d\n\n" ++
      "event: tasks/*\ndata: [\"delete\"]\n\n").toList) ++
    List.replicate 3 (.resume (.worker 0) true)

/-- The listener is called for the first and for the third. -/
theorem changes_exact_threePayloads :
    ∃ e₁ e', (Engine.initial .sample none).step (.start recordListener) = some e₁ ∧
      e₁.run threePayloads = some e' ∧
      ((e'.readings.drop e₁.readings.length).filterMap (Event.change? ⟨1⟩)).map (·.render) =
        ["\x7b\"action\":\"create\",\"record\":7\x7d",
          "\x7b\"action\":\"delete\",\"record\":null\x7d"] ∧
      ((((e₁.handlings threePayloads).filter fun h =>
        h.Reaches "tasks/*" (⟨1⟩, ⟨"first", .change, false⟩)).map Handling.payload).filterMap
          (Listener.change? ⟨"first", .change, false⟩)).length = 2 := by
  have hstart : (Engine.initial .sample none).step (.start recordListener) =
    some ((Engine.initial .sample none).beginCall recordListener true) := rfl
  obtain ⟨e', hrun, hend⟩ := exists_run
    ((Engine.initial .sample none).beginCall recordListener true) threePayloads
    (fun e' => ((e'.readings.drop ((Engine.initial .sample none).beginCall recordListener
      true).readings.length).filterMap (Event.change? ⟨1⟩)).map (·.render) =
        ["\x7b\"action\":\"create\",\"record\":7\x7d",
          "\x7b\"action\":\"delete\",\"record\":null\x7d"]) (by decide +kernel)
  have hcalls := of_decide_eq_true hend
  obtain ⟨-, hchanges, -⟩ := changes_exact Reachable.initial
    (show Collection.subscribe "tasks" "*" .none "first" false = .ok recordListener from rfl)
    hstart hrun (show "tasks/*" = _ by decide)
    (show ⟨1⟩ = (⟨(Engine.initial .sample none).registry.issued + 1⟩ : ListenerId) from rfl) rfl
  refine ⟨_, e', hstart, hrun, hcalls, ?_⟩
  have hlength := congrArg List.length hcalls
  rw [List.length_map] at hlength
  rw [← hchanges, hlength]
  rfl

end TopicStream.Engine
