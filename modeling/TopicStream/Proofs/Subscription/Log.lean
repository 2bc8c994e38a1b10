import Mathlib.Algebra.BigOperators.Group.List.Lemmas
import Mathlib.Data.List.Dedup
import TopicStream.Proofs.Subscription.Registry

/-!
# The registry as a log

A registry shows what a flat list of registrations would show that is kept in the order of
registration: an addition goes to its end, and a removal takes out the entries that it names. The
map of topics behind a registry is only a way to find the entries of a topic.

## Main results

* `Registry.Represents`: a registry holds the entries of a log, topic by topic; kept by every
  operation (`Registry.Represents.perform`), which also returns the same on both;
* `Registry.Represents.shows`: every view of a registry is a view of the log;
* `Registry.performAll_refines`: both for all histories of a registry.
-/

namespace TopicStream.Subscription

variable {L : Type}

/-! ### Logs -/

/-- One registration. -/
structure Entry (L : Type) where
  /-- The key of its topic. -/
  topic : String
  /-- Its id. -/
  id : ListenerId
  /-- Its listener. -/
  listener : L

/-- The registrations that there are, in the order in which they were made. -/
structure Log (L : Type) where
  /-- The registrations. -/
  entries : List (Entry L)
  /-- The greatest number of an id that was ever issued. -/
  issued : Nat

namespace Log

/-- The log before the first registration. -/
def empty : Log L := ⟨[], 0⟩

/-- The entries of a topic, in order. -/
def under (log : Log L) (topic : String) : List (Entry L) :=
  log.entries.filter (·.topic = topic)

/-- The topics that occur, each once. -/
def topics (log : Log L) : List String := (log.entries.map (·.topic)).dedup

/-- The entries whose topic satisfies a condition. -/
def restrict (log : Log L) (keep : String → Bool) : Log L :=
  { log with entries := log.entries.filter fun e => keep e.topic }

end Log

/-! ### Operations -/

/-- An operation on the registrations of listeners of type `L`. -/
inductive Operation (L : Type) where
  /-- Registers a listener. -/
  | add (topic : String) (listener : L)
  /-- Removes a topic. -/
  | removeTopic (topic : String)
  /-- Removes all topics that begin with a text. -/
  | removeStarting (start : String)
  /-- Removes one registration. -/
  | removeListener (topic : String) (id : ListenerId)
  /-- Removes all registrations. -/
  | clear

/-- What an operation returns. -/
inductive Outcome where
  /-- The id of a new registration. -/
  | registered (id : ListenerId)
  /-- Whether there was something to remove. -/
  | removed (found : Bool)
  /-- How many topics were removed. -/
  | dropped (topics : Nat)
  /-- Nothing. -/
  | done
  deriving DecidableEq, Repr

/-- The id that an operation has issued. -/
def Outcome.id? : Outcome → Option ListenerId
  | .registered id => some id
  | _ => none

/-- Whether an operation is a registration. -/
def Operation.isAdd : Operation L → Bool
  | .add .. => true
  | _ => false

/-- An operation on a registry. -/
def Registry.perform (r : Registry L) : Operation L → Outcome × Registry L
  | .add topic listener =>
    let (id, r) := r.add topic listener
    (.registered id, r)
  | .removeTopic topic =>
    let (found, r) := r.removeTopic topic
    (.removed found, r)
  | .removeStarting start =>
    let (topics, r) := r.removeStarting start
    (.dropped topics, r)
  | .removeListener topic id =>
    let (found, r) := r.removeListener topic id
    (.removed found, r)
  | .clear => (.done, r.clear)

/-- Whether the bytes of a text begin with those of another. -/
def beginsWith (start text : String) : Bool :=
  (Text.Utf8.encode start.toList).isPrefixOf (Text.Utf8.encode text.toList)

/-- An operation on a log: an addition appends an entry whose id is greater by one than all ids
before, and a removal deletes the entries of the topic, of the topics that begin with the text, with
the topic and the id, or all. -/
def Log.perform (log : Log L) : Operation L → Outcome × Log L
  | .add topic listener =>
    (.registered ⟨log.issued + 1⟩,
      ⟨log.entries ++ [⟨topic, ⟨log.issued + 1⟩, listener⟩], log.issued + 1⟩)
  | .removeTopic topic =>
    (.removed (log.entries.any (·.topic = topic)), log.restrict (· != topic))
  | .removeStarting start =>
    (.dropped (log.restrict (beginsWith start)).topics.length, log.restrict (!beginsWith start ·))
  | .removeListener topic id =>
    (.removed (log.entries.any fun e => e.topic = topic ∧ e.id = id),
      { log with entries := log.entries.filter fun e => ¬(e.topic = topic ∧ e.id = id) })
  | .clear => (.done, { log with entries := [] })

/-- Operations one after the other, with what they return. -/
def performAll {S : Type} (perform : S → Operation L → Outcome × S) (s : S) :
    List (Operation L) → List Outcome × S
  | [] => ([], s)
  | op :: ops =>
    ((perform s op).1 :: (performAll perform (perform s op).2 ops).1,
      (performAll perform (perform s op).2 ops).2)

/-- The ids that operations issue follow on those issued before, one by one. -/
theorem Log.ids_performAll (log : Log L) (ops : List (Operation L)) :
    (performAll Log.perform log ops).1.filterMap Outcome.id? =
      (List.range' (log.issued + 1) (ops.countP Operation.isAdd)).map ListenerId.mk := by
  induction ops generalizing log with
  | nil => rfl
  | cons op ops ih =>
    rw [performAll, List.filterMap_cons, ih]
    cases op with
    | add topic listener =>
      rw [List.countP_cons_of_pos rfl, List.range'_succ]
      rfl
    | removeTopic topic => rfl
    | removeStarting start => rfl
    | removeListener topic id => rfl
    | clear => rfl

namespace Registry

/-! ### Registries that hold a log -/

/-- A registry holds the entries of a log: under each topic those of the topic, in order. -/
structure Represents (r : Registry L) (log : Log L) : Prop where
  /-- The registrations of each topic are its entries. -/
  entries : ∀ topic, r.entries topic = (log.under topic).map fun e => (e.id, e.listener)
  /-- The same ids have been issued. -/
  issued : r.issued = log.issued
  /-- The registry is one that was empty once. -/
  wellFormed : r.WellFormed

section Represents

variable {r : Registry L} {log : Log L}

theorem represents_empty : (empty : Registry L).Represents .empty :=
  ⟨fun _ => rfl, rfl, wellFormed_empty⟩

theorem Represents.add (h : r.Represents log) (topic : String) (listener : L) :
    (r.add topic listener).2.Represents
      ⟨log.entries ++ [⟨topic, ⟨log.issued + 1⟩, listener⟩], log.issued + 1⟩ where
  entries topic' := by
    rw [entries_add, Log.under, List.filter_append, List.map_append, ← Log.under, ← h.entries]
    by_cases htopic : topic = topic'
    · subst htopic
      simp [h.issued]
    · simp [htopic]
  issued := congrArg (· + 1) h.issued
  wellFormed := h.wellFormed.add topic listener

/-- Keeping some topics of a registry is keeping their entries in the log. -/
theorem Represents.restrict (h : r.Represents log) (keep : String → Bool) :
    Represents { r with topics := r.topics.filter fun topic _ => keep topic }
      (log.restrict keep) where
  entries topic := by
    rw [entries_filter, h.entries, Log.under, Log.under, Log.restrict, List.filter_filter]
    by_cases hkeep : keep topic = true
    · rw [if_pos hkeep]
      congr 1
      refine List.filter_congr fun e _ => ?_
      by_cases he : e.topic = topic <;> simp [he, hkeep]
    · rw [if_neg hkeep, eq_comm, List.map_eq_nil_iff, List.filter_eq_nil_iff]
      intro e _ he
      rw [Bool.and_eq_true, decide_eq_true_eq] at he
      exact hkeep (he.1 ▸ he.2)
  issued := h.issued
  wellFormed := h.wellFormed.filter keep

theorem Represents.removeListener (h : r.Represents log) (topic : String) (id : ListenerId) :
    (r.removeListener topic id).2.Represents
      { log with entries := log.entries.filter fun e => ¬(e.topic = topic ∧ e.id = id) } where
  entries topic' := by
    rw [entries_removeListener, Log.under, List.filter_filter]
    by_cases htopic : topic = topic'
    · subst htopic
      rw [if_pos rfl, h.entries, Log.under, List.filter_map, List.filter_filter]
      congr 1
      refine List.filter_congr fun e _ => ?_
      by_cases he : e.topic = topic <;> simp [he, bne, beq_eq_decide]
    · rw [if_neg htopic, h.entries, Log.under]
      congr 1
      refine List.filter_congr fun e _ => ?_
      by_cases he : e.topic = topic' <;> simp [he, Ne.symm htopic]
  issued := by rw [issued_removeListener, h.issued]
  wellFormed := h.wellFormed.removeListener topic id

/-! ### Views -/

/-- A topic is active if the log has an entry of it. -/
theorem Represents.mem_activeTopics (h : r.Represents log) {topic : String} :
    topic ∈ r.activeTopics ↔ ∃ e ∈ log.entries, e.topic = topic := by
  rw [Registry.mem_activeTopics, h.entries]
  simp [Log.under]

/-- The topics of a registry are its active topics, since each has a listener. -/
theorem Represents.activeTopics_eq_keys (h : r.Represents log) :
    r.activeTopics = r.topics.keys := by
  have hall : (r.topics.members.filter fun m => !m.2.isEmpty) = r.topics.members := by
    refine List.filter_eq_self.2 fun m hm => ?_
    have hget : r.topics.get? m.1 = some m.2 := KeyMap.get?_eq_some_iff.2 hm
    cases hentries : m.2 with
    | nil => exact absurd (hentries ▸ hget) (h.wellFormed.present m.1)
    | cons => rfl
  exact congrArg (List.map (·.1)) hall

theorem Represents.contains_eq (h : r.Represents log) (topic : String) :
    r.contains topic = log.entries.any (·.topic = topic) := by
  have hactive : topic ∈ r.activeTopics ↔ ∃ e ∈ log.entries, e.topic = topic := h.mem_activeTopics
  rw [h.activeTopics_eq_keys, KeyMap.mem_keys, ← Option.isSome_iff_exists] at hactive
  rw [Bool.eq_iff_iff, contains, KeyMap.contains, hactive]
  simp

/-- The topics of a registry are those that occur in the log. -/
theorem Represents.keys_perm (h : r.Represents log) : r.topics.keys.Perm log.topics := by
  refine (List.perm_ext_iff_of_nodup r.topics.nodup_keys (List.nodup_dedup _)).2 fun topic => ?_
  rw [← h.activeTopics_eq_keys, h.mem_activeTopics, List.mem_dedup, List.mem_map]

theorem Represents.size_eq (h : r.Represents log) : r.size = log.topics.length := by
  rw [size, ← KeyMap.length_keys, h.keys_perm.length_eq]

theorem Represents.isEmpty_eq (h : r.Represents log) : r.isEmpty = log.entries.isEmpty := by
  have hsize := h.size_eq
  rw [size, KeyMap.size, Log.topics] at hsize
  rw [Bool.eq_iff_iff, isEmpty, KeyMap.isEmpty, List.isEmpty_iff, List.isEmpty_iff,
    ← List.length_eq_zero_iff, hsize, List.length_eq_zero_iff, List.dedup_eq_nil,
    List.map_eq_nil_iff]

/-- The topics of a registry with the numbers of their listeners. -/
theorem Represents.map_length (h : r.Represents log) :
    r.topics.members.map (fun m => (m.1, m.2.length)) =
      r.activeTopics.map fun topic => (topic, (log.under topic).length) := by
  rw [h.activeTopics_eq_keys, KeyMap.keys, List.map_map]
  refine List.map_congr_left fun m hm => ?_
  have hentries := h.entries m.1
  rw [Registry.entries, KeyMap.get?_eq_some_iff.2 hm, Option.getD_some] at hentries
  simp [hentries]

/-- Each entry of a log is counted once, under its topic. -/
theorem Represents.count_eq (h : r.Represents log) : r.count = log.entries.length := by
  have hunder : ∀ topic, (log.under topic).length = (log.entries.map (·.topic)).count topic := by
    intro topic
    rw [Log.under, ← List.countP_eq_length_filter, List.count, List.countP_map]
    exact List.countP_congr fun e _ => by simp
  calc
    r.count = (r.topics.members.map (fun m => (m.1, m.2.length)) |>.map (·.2)).sum := by
      rw [count, List.map_map, List.sum_eq_foldl, List.foldl_map]
      rfl
    _ = (r.topics.keys.map fun topic => (log.entries.map (·.topic)).count topic).sum := by
      rw [h.map_length, List.map_map, h.activeTopics_eq_keys]
      simp only [Function.comp_def, hunder]
    _ = (log.topics.map fun topic => (log.entries.map (·.topic)).count topic).sum :=
      (h.keys_perm.map _).sum_eq
    _ = log.entries.length := by
      rw [Log.topics, List.sum_map_count_dedup_eq_length, List.length_map]

/-- A registration that is not there cannot be removed. -/
theorem Represents.removeListener_eq_self (h : r.Represents log) {topic : String} {id : ListenerId}
    (hstale : ∀ e ∈ log.entries, ¬(e.topic = topic ∧ e.id = id)) :
    r.removeListener topic id = (false, r) := by
  unfold Registry.removeListener
  split
  · rfl
  · rename_i present hpresent
    have hentries := h.entries topic
    rw [Registry.entries, hpresent, Option.getD_some] at hentries
    have hkept : present.filter (fun e => e.1 != id) = present := by
      rw [List.filter_eq_self, hentries]
      intro p hp
      obtain ⟨e, he, rfl⟩ := List.mem_map.1 hp
      obtain ⟨hmem, htopic⟩ := List.mem_filter.1 he
      simpa using fun hid => hstale e hmem ⟨of_decide_eq_true htopic, hid⟩
    -- the registrations of a topic that is present are not empty, so that it stays present
    have hsome : present.isEmpty = false := by
      cases present with
      | nil => exact absurd hpresent (h.wellFormed.present topic)
      | cons => rfl
    simp [hkept, hsome, KeyMap.insert_eq_self hpresent]

/-- What a registry shows of a log. -/
structure Shows (r : Registry L) (log : Log L) : Prop where
  /-- The listeners of a topic are those of its entries, in order of registration. -/
  listeners : ∀ topic, r.listeners topic = (log.under topic).map (·.listener)
  /-- The active topics are those that occur. -/
  active : ∀ topic, topic ∈ r.activeTopics ↔ ∃ e ∈ log.entries, e.topic = topic
  /-- They come in the order of their bytes, each once. -/
  ascending : r.activeTopics.Pairwise fun s t =>
    Text.Utf8.encode s.toList < Text.Utf8.encode t.toList
  /-- Their number is the size. -/
  size : r.size = r.activeTopics.length
  /-- A topic is present if it occurs. -/
  contains : ∀ topic, r.contains topic = log.entries.any (·.topic = topic)
  /-- The registry is empty if there are no entries. -/
  isEmpty : r.isEmpty = log.entries.isEmpty
  /-- All entries are counted. -/
  count : r.count = log.entries.length
  /-- The form for people lists the active topics with the numbers of their entries. -/
  describe : r.describe = "SubscriptionRegistry \x7b topics: \x7b" ++
    ", ".intercalate (r.activeTopics.map fun topic =>
      Text.Quoted.encode topic ++ ": " ++ Nat.repr (log.under topic).length) ++ "\x7d \x7d"
  /-- No topic is present without a listener. -/
  present : ∀ topic, r.topics.get? topic ≠ some []
  /-- Removing what is not registered returns so and changes nothing. -/
  stale : ∀ topic id, (∀ e ∈ log.entries, ¬(e.topic = topic ∧ e.id = id)) →
    r.removeListener topic id = (false, r)

theorem Represents.shows (h : r.Represents log) : r.Shows log where
  listeners topic := by
    rw [listeners, h.entries, List.map_map]
    rfl
  active _ := h.mem_activeTopics
  ascending := r.activeTopics_ascending
  size := by rw [h.activeTopics_eq_keys, KeyMap.length_keys, size]
  contains := h.contains_eq
  isEmpty := h.isEmpty_eq
  count := h.count_eq
  describe := by
    have hlines := congrArg (List.map fun p : String × Nat =>
      Text.Quoted.encode p.1 ++ ": " ++ Nat.repr p.2) h.map_length
    rw [List.map_map, List.map_map] at hlines
    exact congrArg (fun lines => "SubscriptionRegistry \x7b topics: \x7b" ++
      ", ".intercalate lines ++ "\x7d \x7d") hlines
  present := h.wellFormed.present
  stale _ _ := h.removeListener_eq_self

/-! ### Histories -/

/-- Texts begin with one another as their bytes do. -/
theorem beginsWith_eq_startsWith : beginsWith = startsWith := by
  funext start text
  rw [Bool.eq_iff_iff, beginsWith, startsWith, List.isPrefixOf_iff_prefix,
    List.isPrefixOf_iff_prefix, Text.Utf8.encode_prefix_encode_iff]

/-- As many topics are dropped as occur among the entries that are deleted. -/
theorem Represents.dropped_eq (h : r.Represents log) (start : String) :
    (r.removeStarting start).1 = (log.restrict (startsWith start)).topics.length := by
  rw [← (h.restrict (startsWith start)).size_eq]
  -- the topics that are kept and those that are dropped are all topics
  have hsplit := List.length_eq_length_filter_add (l := r.topics.members)
    fun m => startsWith start m.1
  simp only [removeStarting, size, KeyMap.size, KeyMap.filter] at hsplit ⊢
  omega

/-- A registration is found among those of its topic if the log has an entry with its id. -/
theorem Represents.removed_eq (h : r.Represents log) (topic : String) (id : ListenerId) :
    (r.removeListener topic id).1 = log.entries.any fun e => e.topic = topic ∧ e.id = id := by
  by_cases hfound : ∃ e ∈ log.entries, e.topic = topic ∧ e.id = id
  · obtain ⟨e, he, htopic, hid⟩ := hfound
    have hentry : (id, e.listener) ∈ r.entries topic := by
      rw [h.entries, List.mem_map]
      exact ⟨e, List.mem_filter.2 ⟨he, decide_eq_true htopic⟩, by rw [hid]⟩
    have hany : (log.entries.any fun e => e.topic = topic ∧ e.id = id) = true :=
      List.any_eq_true.2 ⟨e, he, decide_eq_true ⟨htopic, hid⟩⟩
    rw [hany]
    unfold Registry.removeListener
    split
    · rename_i habsent
      rw [Registry.entries, habsent] at hentry
      simp at hentry
    · rename_i present hpresent
      rw [Registry.entries, hpresent, Option.getD_some] at hentry
      -- the registration is filtered out, and a removal is told by the length of what is left
      have hshorter : (present.filter fun e => e.1 != id).length < present.length := by
        rw [List.length_filter_lt_length_iff_exists]
        exact ⟨_, hentry, by simp⟩
      simpa using Nat.ne_of_lt hshorter
  · have hstale : ∀ e ∈ log.entries, ¬(e.topic = topic ∧ e.id = id) := by simpa using hfound
    rw [h.removeListener_eq_self hstale, eq_comm, List.any_eq_false]
    simpa using hstale

/-- Every operation returns the same on a registry and on the log that it holds, and the registry
still holds the log after it. -/
theorem Represents.perform (h : r.Represents log) (op : Operation L) :
    (r.perform op).1 = (log.perform op).1 ∧ (r.perform op).2.Represents (log.perform op).2 := by
  cases op with
  | add topic listener =>
    exact ⟨congrArg (fun n => Outcome.registered ⟨n + 1⟩) h.issued, h.add topic listener⟩
  | removeTopic topic =>
    exact ⟨congrArg Outcome.removed (h.contains_eq topic), h.restrict (· != topic)⟩
  | removeStarting start =>
    rw [Log.perform, beginsWith_eq_startsWith]
    exact ⟨congrArg Outcome.dropped (h.dropped_eq start), h.restrict (!startsWith start ·)⟩
  | removeListener topic id =>
    exact ⟨congrArg Outcome.removed (h.removed_eq topic id), h.removeListener topic id⟩
  | clear => exact ⟨rfl, fun _ => rfl, h.issued, h.wellFormed.clear⟩

/-- After any operations, a registry holds the log after the same operations, and all of them have
returned the same. -/
theorem Represents.performAll (h : r.Represents log) (ops : List (Operation L)) :
    (Subscription.performAll Registry.perform r ops).1 =
        (Subscription.performAll Log.perform log ops).1 ∧
      (Subscription.performAll Registry.perform r ops).2.Represents
        (Subscription.performAll Log.perform log ops).2 := by
  induction ops generalizing r log with
  | nil => exact ⟨rfl, h⟩
  | cons op ops ih =>
    obtain ⟨houtcome, hafter⟩ := h.perform op
    obtain ⟨houtcomes, hlast⟩ := ih hafter
    exact ⟨List.cons_eq_cons.2 ⟨houtcome, houtcomes⟩, hlast⟩

end Represents

/-- What a registry returns and shows after any operations is what a log would return and show after
them. The first id is the first number, and each further one is greater by one than all before, no
matter what has been removed in between. -/
theorem performAll_refines (ops : List (Operation L)) :
    (performAll perform (empty : Registry L) ops).1 = (performAll Log.perform .empty ops).1 ∧
      (performAll perform empty ops).2.Shows (performAll Log.perform .empty ops).2 ∧
      (performAll perform (empty : Registry L) ops).1.filterMap Outcome.id? =
        (List.range' 1 (ops.countP Operation.isAdd)).map ListenerId.mk := by
  obtain ⟨houtcomes, hafter⟩ := represents_empty.performAll ops
  refine ⟨houtcomes, hafter.shows, ?_⟩
  rw [houtcomes, Log.ids_performAll]
  rfl

/-- Ids go on after everything has been removed, and an id is good for its own topic only. -/
example :
    (performAll perform (empty : Registry Unit)
      [.add "a" (), .add "a/b" (), .removeListener "a/b" ⟨1⟩, .removeStarting "a", .clear,
        .add "a" (), .removeListener "a" ⟨1⟩, .removeListener "a" ⟨3⟩]).1 =
      [.registered ⟨1⟩, .registered ⟨2⟩, .removed false, .dropped 2, .done, .registered ⟨3⟩,
        .removed false, .removed true] := by
  decide

end Registry

end TopicStream.Subscription
