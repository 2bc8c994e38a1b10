import TopicStream.Proofs.Engine.Posting
import TopicStream.Proofs.Engine.Reporting
import TopicStream.Proofs.Subscription.Collection

/-!
# Removals by collection

Ending the subscriptions to all records of a collection takes out the registrations under the keys
that the collection holds, and ending those to one record takes out the registrations under the
topic of the record without options. What is left is announced in the same step if the session can
register; if nothing is left the connection is torn down.

## Main results

* `holds_of_madeThrough`: what is registered through a collection is registered under a key that it
  holds;
* `exists_remains_of_remove`: what any removal does with the topics that it leaves;
* `collection_scoping`: what is removed by collection, what is not, and what follows.
-/

namespace TopicStream.Engine

open Subscription

/-! ### Registrations made through a collection -/

/-- A call has made a registration through a collection. -/
def MadeThrough (e : Engine) (collection key : String) (id : ListenerId) : Prop :=
  ∃ call ∈ e.calls, call.registered = some (key, id) ∧
    ∃ record options name crashes,
      Collection.subscribe collection record options name crashes = .ok call.request

/-- A subscription to a record makes a registration through the collection. -/
theorem madeThrough_of_subscribe {e e' : Engine} {collection record name : String}
    {options : Options} {crashes : Bool} {request : Request}
    (hrequest : Collection.subscribe collection record options name crashes = .ok request)
    (hstart : e.step (.start request) = some e') :
    e'.MadeThrough collection (options.topicKey (Collection.topic collection record))
      ⟨e.registry.issued + 1⟩ := by
  obtain rfl := Collection.eq_of_subscribe hrequest
  obtain ⟨-, call, hcall, hasked, hregistered, -⟩ := beginCall_subscribe e
    (Collection.topic_ne_empty collection record) options ⟨name, .change, crashes⟩ true
  cases stepMove_of_step hstart with
  | start alive request =>
    refine ⟨call, List.mem_of_getElem? hcall, hregistered, record, options, name, crashes, ?_⟩
    rw [hasked]
    exact hrequest

/-- What is registered through a collection is registered under the key of a record. -/
theorem exists_topicKey_of_madeThrough {settings : Settings} {credential : Option String}
    {e : Engine} (he : Reachable settings credential e) {collection key : String}
    {id : ListenerId} (h : e.MadeThrough collection key id) :
    ∃ (record : String) (options : Options),
      key = options.topicKey (Collection.topic collection record) := by
  obtain ⟨call, hcall, hregistered, record, options, name, crashes, hrequest⟩ := h
  obtain ⟨c, hc⟩ := List.mem_iff_getElem?.1 hcall
  have hregisters := (accounts_of_reachable he).registers c call hc
  rw [hregistered, Collection.eq_of_subscribe hrequest] at hregisters
  exact ⟨record, options, hregisters.2⟩

/-- So the collection holds the key. -/
theorem holds_of_madeThrough {settings : Settings} {credential : Option String} {e : Engine}
    (he : Reachable settings credential e) {collection key : String} {id : ListenerId}
    (h : e.MadeThrough collection key id) : Collection.Holds collection key := by
  obtain ⟨record, options, rfl⟩ := exists_topicKey_of_madeThrough he h
  exact Collection.holds_topicKey collection record options

/-! ### What follows a removal -/

/-- A call tears the connection down. -/
structure Severs (e e' : Engine) (c : Nat) : Prop where
  /-- There is no current worker any more. -/
  slot : e'.slot = none
  /-- There is no session any more. -/
  session : e'.session = .none
  /-- Calls that wait for a greeting know. -/
  ready : e'.ready = false
  /-- The worker in the slot, if any, is told to end, and nothing else happens. -/
  retired : ∀ w, e.slot = some w → e'.events = e.events ++ [.retired w (some c)] ∧
    ∃ k, e'.workers[w]? = some k ∧ k.cancelled = true
  /-- Without a worker in the slot the call returns. -/
  vacant : e.slot = none → e'.events = e.events ++ [.returned c .done]
  /-- Once the worker and the call have gone on, which they can, the worker has ended, the call has
  returned, and the connection is idle. -/
  ends : ∃ actions e'', (∀ action ∈ actions, action.isResume = true) ∧
    e'.run actions = some e'' ∧ e''.connection = .idle ∧ e''.slot = none ∧
    (∀ w, e.slot = some w → e''.isOver w = true) ∧
    ∃ call, e''.calls[c]? = some call ∧ call.phase = .ended .done

/-- What a call that has removed registrations does with the topics that are left. -/
structure Remains (e e' : Engine) (c : Nat) : Prop where
  /-- Topics that are left are announced, all of them, if the session can register; nothing else
  happens. -/
  announced : e'.registry.isEmpty = false → e.session.canRegister = true →
    ∃ topics, e'.events = e.events ++ [.announced (.call c) e.session.clientId topics] ∧
      e'.posts = e.posts ++ [announcementRequest e.session.clientId topics] ∧
      FullSet e'.registry topics
  /-- If the session cannot register the call returns, and nothing else happens. -/
  silent : e'.registry.isEmpty = false → e.session.canRegister = false →
    e'.events = e.events ++ [.returned c .done]
  /-- As long as topics are left, the worker, the session and the connection are as before. -/
  core : e'.registry.isEmpty = false → e'.core = e.core
  /-- If no topic is left the connection is torn down. -/
  severed : e'.registry.isEmpty = true → Severs e e' c

section Removal

variable {e : Engine} {c : Nat} {call : Call}

/-- A call that waits for a worker that has ended returns, and then the connection is idle. -/
theorem run_of_joined {w : Nat} {outcome : Outcome} (hslot : e.slot = none)
    (hover : e.isOver w = true) (hcall : e.calls[c]? = some call)
    (hphase : call.phase = .joining w outcome) :
    ∃ e', e.run [.resume (.call c) true] = some e' ∧ e'.connection = .idle ∧ e'.slot = none ∧
      e'.isOver w = true ∧ ∃ call', e'.calls[c]? = some call' ∧ call'.phase = .ended outcome := by
  have hgoes : e.step (.resume (.call c) true) = some (e.concludeDisconnect c outcome) := by
    change e.resumeCall c true = _
    rw [resumeCall_of_joining hcall hphase, if_pos hover]
  have hidle : e.concludeDisconnect c outcome =
      { e with connection := .idle }.endCall c outcome := by
    rw [concludeDisconnect, hslot]
    rfl
  refine ⟨_, run_cons hgoes [], ?_, ?_, ?_, ?_⟩
  · rw [hidle]
    rfl
  · exact (slot_concludeDisconnect e c outcome).trans hslot
  · rw [hidle]
    exact hover
  · exact ⟨_, (goes_concludeDisconnect e c outcome).self hcall, rfl⟩

/-- A call that waits for a worker that has been told to end returns after it. -/
theorem exists_run_of_joining {w : Nat} {k : Worker} {outcome : Outcome} (hslot : e.slot = none)
    (hk : e.workers[w]? = some k) (hcancelled : k.cancelled = true)
    (hcall : e.calls[c]? = some call) (hphase : call.phase = .joining w outcome) :
    ∃ actions e', (∀ action ∈ actions, action.isResume = true) ∧ e.run actions = some e' ∧
      e'.connection = .idle ∧ e'.slot = none ∧ e'.isOver w = true ∧
      ∃ call', e'.calls[c]? = some call' ∧ call'.phase = .ended outcome := by
  by_cases hover : k.phase.isOver = true
  · obtain ⟨e', hrun, hend⟩ :=
      run_of_joined hslot ((isOver_eq_of_getElem? hk).trans hover) hcall hphase
    exact ⟨_, e', by simp [Action.isResume], hrun, hend⟩
  · -- the worker has to end first
    have hfinish : e.step (.resume (.worker w) true) = some (e.finishWorker w k.epoch) :=
      resumeWorker_of_cancelled hk (Bool.not_eq_true _ ▸ hover) hcancelled
    have hframe : (e.finishWorker w k.epoch).slot = e.slot ∧
        (e.finishWorker w k.epoch).calls = e.calls ∧
        (e.finishWorker w k.epoch).workers = (e.setWorker w .finished).workers := by
      unfold finishWorker resetSession
      split <;> exact ⟨rfl, rfl, rfl⟩
    obtain ⟨hslot', hcalls, hworkers⟩ := hframe
    have hended : (e.finishWorker w k.epoch).isOver w = true := by
      have hk' : (e.finishWorker w k.epoch).workers[w]? = some { k with phase := .finished } := by
        rw [hworkers, setWorker, List.getElem?_modify_eq, hk]
        rfl
      rw [isOver_eq_of_getElem? hk']
      rfl
    obtain ⟨e', hrun, hend⟩ :=
      run_of_joined (hslot'.trans hslot) hended (hcalls ▸ hcall) hphase
    exact ⟨_, e', by simp [Action.isResume], (run_cons hfinish _).trans hrun, hend⟩

/-- Without a worker in the slot there is no session, and a call that disconnects returns. -/
theorem severs_of_vacant (hsession : e.core.SessionInv) (hslot : e.slot = none)
    (hcall : e.calls[c]? = some call) : Severs e (e.beginDisconnect c .done) c := by
  obtain ⟨hnone, hready⟩ := session_of_vacant hsession hslot
  have hoccupied {w : Nat} {p : Prop} (h : e.slot = some w) : p := by
    cases hslot.symm.trans h
  rw [beginDisconnect_of_vacant hslot]
  constructor
  case slot => exact hslot
  case session => exact hnone
  case ready => exact hready
  case retired => exact fun w h => hoccupied h
  case vacant => exact fun _ => (proceeds_endCall { e with connection := .idle } c .done).events
  case ends =>
    have hreturns := goes_endCall { e with connection := .idle } c .done
    exact ⟨[], _, nofun, rfl, rfl, hslot, fun w h => hoccupied h, _, hreturns.self hcall, rfl⟩

/-- With a worker in the slot the call gives it up and waits for its end. -/
theorem severs_of_occupied (hordered : e.core.SlotInv) {w : Nat} (hslot : e.slot = some w)
    (hcall : e.calls[c]? = some call) : Severs e (e.beginDisconnect c .done) c := by
  have hcore := core_beginDisconnect hslot c .done
  have hvacated := slot_beginDisconnect e c .done
  -- the worker that the call waits for is the one that it has told to end
  have hjoins := (goes_beginDisconnect_of_occupied hslot c .done).self hcall
  obtain ⟨k, hk, hcancelled⟩ := exists_cancelled_beginDisconnect hordered hslot c .done
  constructor
  case slot => exact hvacated
  case session => exact congrArg Core.session hcore
  case ready => exact congrArg Core.ready hcore
  case retired =>
    intro w' hoccupied
    cases hslot.symm.trans hoccupied
    exact ⟨events_beginDisconnect hslot c .done, k, hk, hcancelled⟩
  case vacant =>
    intro hvacant
    cases hslot.symm.trans hvacant
  case ends =>
    obtain ⟨actions, e', hresume, hrun, hidle, hslot', hover, hended⟩ :=
      exists_run_of_joining hvacated hk hcancelled hjoins rfl
    refine ⟨actions, e', hresume, hrun, hidle, hslot', fun w' hoccupied => ?_, hended⟩
    cases hslot.symm.trans hoccupied
    exact hover

/-- A call that disconnects tears the connection down. -/
theorem severs_beginDisconnect (hordered : e.core.SlotInv) (hsession : e.core.SessionInv)
    (hcall : e.calls[c]? = some call) : Severs e (e.beginDisconnect c .done) c := by
  cases hslot : e.slot with
  | none => exact severs_of_vacant hsession hslot hcall
  | some w => exact severs_of_occupied hordered hslot hcall

/-- A removal after which topics are left announces them if the session can register. -/
theorem beginCall_remove_of_canRegister (hwf : e.registry.WellFormed) (what : Removal)
    (borrows : Bool) (htopics : (what.apply e.registry).isEmpty = false)
    (hcan : e.session.canRegister = true) :
    let topics := (what.apply e.registry).activeTopics
    FullSet (what.apply e.registry) topics ∧
      e.beginCall (.remove what) borrows =
        ((e.withRemoval what borrows).note
          (.announced (.call e.calls.length) e.session.clientId topics)).setCall e.calls.length
            (.announcing e.slot none) := by
  have hdue : (e.withRemoval what borrows).announcement? =
      some (e.session.clientId, (what.apply e.registry).activeTopics) :=
    announcement?_of_topics (e := e.withRemoval what borrows) (what.wellFormed_apply hwf) hcan
      htopics
  refine ⟨fullSet_of_announcement? hdue, ?_⟩
  rw [beginCall_remove_eq, announceFor, announce?, hdue]
  rfl

/-- If the session cannot register it returns. -/
theorem beginCall_remove_of_silent (what : Removal) (borrows : Bool)
    (htopics : (what.apply e.registry).isEmpty = false)
    (hcannot : e.session.canRegister = false) :
    e.beginCall (.remove what) borrows =
      (e.withRemoval what borrows).endCall e.calls.length .done := by
  have hnothing : (e.withRemoval what borrows).announcement? = none := by
    refine if_neg fun hdue => ?_
    have hcan : e.session.canRegister = true := (Bool.and_eq_true_iff.1 hdue).1
    rw [hcannot] at hcan
    cases hcan
  have hleft : ¬ (e.withRemoval what borrows).registry.isEmpty = true := by
    change ¬ (what.apply e.registry).isEmpty = true
    rw [htopics]
    exact Bool.false_ne_true
  rw [beginCall_remove_eq, announceFor, announce?, hnothing]
  exact if_neg hleft

/-- What a removal does with the topics that it leaves. -/
theorem remains_beginCall_remove (hordered : e.core.SlotInv) (hsession : e.core.SessionInv)
    (hwf : e.registry.WellFormed) (what : Removal) (borrows : Bool) :
    Remains e (e.beginCall (.remove what) borrows) e.calls.length := by
  let e₁ := e.withRemoval what borrows
  have hregistry : (e.beginCall (.remove what) borrows).registry = what.apply e.registry :=
    registry_beginCall_remove e what borrows
  -- where no topic is left the call goes on as one that disconnects does
  cases hempty : (what.apply e.registry).isEmpty with
  | true =>
    have hnot {p : Prop} (h : (e.beginCall (.remove what) borrows).registry.isEmpty = false) :
        p := by
      rw [hregistry, hempty] at h
      cases h
    have hsevers : Severs e₁ (e₁.beginDisconnect e.calls.length .done) e.calls.length :=
      severs_beginDisconnect hordered hsession (getElem?_withRemoval e what borrows)
    refine ⟨hnot, hnot, hnot, fun _ => ?_⟩
    rw [beginCall_remove_of_isEmpty e what borrows hempty]
    exact ⟨hsevers.slot, hsevers.session, hsevers.ready, hsevers.retired, hsevers.vacant,
      hsevers.ends⟩
  | false =>
    constructor
    case announced =>
      intro _ hcan
      obtain ⟨hfull, hbegin⟩ := beginCall_remove_of_canRegister hwf what borrows hempty hcan
      refine ⟨_, ?_, ?_, hregistry ▸ hfull⟩
      · rw [hbegin]
        exact events_note e₁ _
      · rw [hbegin]
        exact posts_announced e₁ _ _ _
    case silent =>
      intro _ hcannot
      rw [beginCall_remove_of_silent what borrows hempty hcannot]
      exact events_note e₁ _
    case core =>
      intro _
      cases hcan : e.session.canRegister with
      | true =>
        obtain ⟨-, hbegin⟩ := beginCall_remove_of_canRegister hwf what borrows hempty hcan
        rw [hbegin]
        exact core_note_of_isCallers e₁ rfl
      | false =>
        rw [beginCall_remove_of_silent what borrows hempty hcan]
        exact core_endCall e₁ _ _
    case severed =>
      intro hall
      rw [hregistry, hempty] at hall
      cases hall

/-- A removal can begin through the client, and takes effect at once. -/
theorem exists_remains_of_remove {settings : Settings} {credential : Option String}
    (he : Reachable settings credential e) (halive : e.clientAlive = true) (what : Removal) :
    ∃ e', e.step (.start (.remove what)) = some e' ∧ e'.registry = what.apply e.registry ∧
      Remains e e' e.calls.length :=
  ⟨_, by rw [step, if_pos halive], registry_beginCall_remove e what true,
    remains_beginCall_remove (slotInv_of_reachable he) (sessionInv_of_reachable he)
      (wellFormed_of_reachable he) what true⟩

end Removal

/-! ### Removals by collection -/

/-- What ending the subscriptions of a collection does, in any reachable state as long as there is a
client. Ending all of them takes out exactly the registrations under keys that the collection holds;
among them are all that were made through the collection, with whatever records and options, and
none that was made through a collection that does not overlap it: those stay under their keys with
their ids and in their order. Ending those to one record takes out exactly the registrations under
the topic of the record, and none under that topic with options or any longer key. What is left is
announced in the same step if the session can register, and if nothing is left the connection is
torn down. Different collections without a slash in their names do not overlap. -/
theorem collection_scoping {settings : Settings} {credential : Option String} {e : Engine}
    (he : Reachable settings credential e) (halive : e.clientAlive = true) (collection : String) :
    (∃ e', e.step (.start (Collection.unsubscribe collection none)) = some e' ∧
      (∀ key, e'.registry.entries key =
        if Collection.Holds collection key then [] else e.registry.entries key) ∧
      (∀ key id, e.MadeThrough collection key id → e'.registry.entries key = []) ∧
      (∀ other key id, e.MadeThrough other key id → ¬ Collection.Overlaps collection other →
        e'.registry.entries key = e.registry.entries key) ∧
      Remains e e' e.calls.length) ∧
    (∀ record, ∃ e',
      e.step (.start (Collection.unsubscribe collection (some record))) = some e' ∧
      (∀ key, e'.registry.entries key =
        if key = Collection.topic collection record then [] else e.registry.entries key) ∧
      (∀ options : Options, options.isEmpty = false →
        let key := options.topicKey (Collection.topic collection record)
        e'.registry.entries key = e.registry.entries key) ∧
      (∀ more, more ≠ "" →
        let key := Collection.topic collection record ++ more
        e'.registry.entries key = e.registry.entries key) ∧
      Remains e e' e.calls.length) ∧
    ∀ other, collection ≠ other → '/' ∉ collection.toList → '/' ∉ other.toList →
      ¬ Collection.Overlaps collection other := by
  refine ⟨?_, fun record => ?_, fun other => Collection.not_overlaps_of_ne⟩
  · obtain ⟨e', hstep, hregistry, hremains⟩ :=
      exists_remains_of_remove he halive (.starting (collection ++ "/"))
    have hentries (key : String) : e'.registry.entries key =
        if Collection.Holds collection key then [] else e.registry.entries key := by
      rw [hregistry]
      exact e.registry.entries_removeStarting_slash collection key
    refine ⟨e', hstep, hentries, fun key id hmade => ?_, fun other key id hmade hnot => ?_,
      hremains⟩
    · rw [hentries, if_pos (holds_of_madeThrough he hmade)]
    · -- a key that both held would make them overlap
      rw [hentries, if_neg fun hholds =>
        hnot (Collection.overlaps_of_holds hholds (holds_of_madeThrough he hmade))]
  · obtain ⟨e', hstep, hregistry, hremains⟩ :=
      exists_remains_of_remove he halive (.topic (Collection.topic collection record))
    have hentries (key : String) : e'.registry.entries key =
        if key = Collection.topic collection record then [] else e.registry.entries key := by
      rw [hregistry]
      refine (e.registry.entries_removeTopic _ key).trans ?_
      simp only [eq_comm]
    -- options make a key longer, and no longer key is removed
    have hlonger (more : String) (hmore : more ≠ "") :
        Collection.topic collection record ++ more ≠ Collection.topic collection record := by
      intro heq
      have hlists := congrArg String.toList heq
      rw [String.toList_append] at hlists
      exact hmore (String.toList_injective (List.append_right_eq_self.1 hlists))
    refine ⟨e', hstep, hentries, fun options hoptions => ?_, fun more hmore => ?_, hremains⟩
    · obtain ⟨more, hkey, hmore⟩ :=
        options.exists_topicKey_eq_append (Collection.topic collection record)
      have hne : more ≠ "" := by
        intro hnothing
        cases (hmore.1 hnothing).symm.trans hoptions
      simp only [hkey]
      rw [hentries, if_neg (hlonger more hne)]
    · simp only
      rw [hentries, if_neg (hlonger more hmore)]

/-- Options that are folded into keys. -/
def foldedOptions : Options := ⟨.ofList [("filter", .string "status = 1")], .empty⟩

/-- Two registrations for a record, with and without options, under an established session. -/
def twoFoldedSubscriptions : List Action :=
  [.start (.subscribe "a/x" .none ⟨"plain", .change, false⟩)] ++
    openingActions 0 0 (greetingBytes "c1") ++
    [.resume (.worker 0) true,
      .start (.subscribe "a/x" foldedOptions ⟨"folded", .change, false⟩)]

/-- A third is made through a collection whose name begins like that of the others. It outlives the
removal of all of the others, and the one with options outlives the removal of the record. -/
theorem collection_scoping_lookalike :
    ∃ e₀ e e' e'' request,
      (Engine.initial .sample none).run twoFoldedSubscriptions = some e₀ ∧
      Collection.subscribe "ab" "x" .none "other" false = .ok request ∧
      e₀.step (.start request) = some e ∧ e.MadeThrough "ab" "ab/x" ⟨3⟩ ∧
      e.step (.start (Collection.unsubscribe "a" none)) = some e' ∧
      e'.registry.entries "a/x" = [] ∧
      e'.registry.entries (foldedOptions.topicKey "a/x") = [] ∧
      e'.registry.entries "ab/x" = [(⟨3⟩, ⟨"other", .change, false⟩)] ∧
      (∃ topics, e'.posts = e.posts ++ [announcementRequest "c1" topics] ∧
        FullSet e'.registry topics) ∧
      e.step (.start (Collection.unsubscribe "a" (some "x"))) = some e'' ∧
      e''.registry.entries "a/x" = [] ∧
      e''.registry.entries (foldedOptions.topicKey "a/x") =
        [(⟨2⟩, ⟨"folded", .change, false⟩)] := by
  let request : Request := .subscribe "ab/x" .none ⟨"other", .change, false⟩
  obtain ⟨e₀, hrun, hend⟩ := exists_run (.initial .sample none) twoFoldedSubscriptions
    (fun e₀ => e₀.registry.issued = 2 && (e₀.run [.start request]).any fun e =>
      e.clientAlive && e.session = ⟨"c1", true⟩ &&
        e.registry.entries "ab/x" = [(⟨3⟩, ⟨"other", .change, false⟩)] &&
        e.registry.entries (foldedOptions.topicKey "a/x") =
          [(⟨2⟩, ⟨"folded", .change, false⟩)]) (by decide +kernel)
  obtain ⟨hissued, hrest⟩ := Bool.and_eq_true_iff.1 hend
  obtain ⟨e, hrun₁, hstate⟩ := exists_run e₀ [.start request] _ hrest
  obtain ⟨e₁, hstep, hsame⟩ := Option.bind_eq_some_iff.1 hrun₁
  cases hsame
  simp only [Bool.and_eq_true, decide_eq_true_eq] at hissued hstate
  obtain ⟨⟨⟨halive, hsession⟩, hother⟩, hfolded⟩ := hstate
  have hsubscribe : Collection.subscribe "ab" "x" .none "other" false = .ok request := rfl
  have hmade := madeThrough_of_subscribe hsubscribe hstep
  rw [hissued] at hmade
  have he := (Reachable.initial.run hrun).step _ hstep
  obtain ⟨⟨e', hall, hentries, -, -, hremains⟩, hone, -⟩ := collection_scoping he halive "a"
  obtain ⟨e'', hrecord, hentries', hkeys, -⟩ := hone "x"
  have hleft : e'.registry.entries "ab/x" = [(⟨3⟩, ⟨"other", .change, false⟩)] := by
    rw [hentries, if_neg (by decide), hother]
  have htopics : e'.registry.isEmpty = false := by
    by_contra hempty
    have hactive := e'.registry.mem_activeTopics.2 (hleft ▸ List.cons_ne_nil _ _)
    rw [Registry.activeTopics_of_isEmpty _ (by simpa using hempty)] at hactive
    cases hactive
  obtain ⟨topics, -, hposts, hfull⟩ :=
    hremains.announced htopics (by rw [hsession]; decide)
  rw [hsession] at hposts
  refine ⟨e₀, e, e', e'', request, hrun, hsubscribe, hstep, hmade, hall, ?_, ?_, hleft,
    ⟨topics, hposts, hfull⟩, hrecord, ?_, ?_⟩
  · rw [hentries, if_pos (by decide)]
  · rw [hentries]
    exact if_pos (Collection.holds_topicKey "a" "x" foldedOptions)
  · rw [hentries', if_pos (by decide)]
  · exact (hkeys foldedOptions rfl).trans hfolded

end TopicStream.Engine
