import TopicStream.Proofs.Subscription.Registry
import TopicStream.Subscription.Collection

/-!
# Keys of collections

All topic keys share one flat space. The key of a record begins with the name of its collection and
a slash, whatever the record and the options are; so a collection holds exactly the keys that begin
like this. Two collections hold a key in common only if they are the same or one holds the name of
the other, and never if they are different and neither name has a slash.

## Main results

* `Collection.holds_topicKey`: a collection holds the keys of its records;
* `Collection.overlaps_of_holds`: which collections hold a key in common;
* `Registry.entries_removeStarting_slash`: what the removal of the keys of a collection leaves.
-/

namespace TopicStream.Subscription

/-- A text begins with another if it is that other and something more. -/
theorem startsWith_iff {start text : String} :
    startsWith start text = true ↔ ∃ rest, text = start ++ rest := by
  rw [startsWith, List.isPrefixOf_iff_prefix]
  constructor
  · rintro ⟨rest, hrest⟩
    refine ⟨String.ofList rest, String.toList_injective ?_⟩
    rw [← hrest, String.toList_append, String.toList_ofList]
  · rintro ⟨rest, rfl⟩
    rw [String.toList_append]
    exact List.prefix_append _ _

/-- The key of a topic begins with the topic. -/
theorem Options.exists_topicKey_eq_append (o : Options) (topic : String) :
    ∃ rest, o.topicKey topic = topic ++ rest ∧ (rest = "" ↔ o.isEmpty = true) := by
  cases hempty : o.isEmpty with
  | true =>
    refine ⟨"", ?_, iff_of_true rfl rfl⟩
    rw [topicKey, if_pos hempty, String.append_empty]
  | false =>
    rw [topicKey, if_neg (by rw [hempty]; exact Bool.false_ne_true)]
    refine ⟨_, rfl, iff_of_false (fun hnothing => ?_) Bool.false_ne_true⟩
    simpa using congrArg String.toList hnothing

namespace Collection

/-- A collection holds the keys, and the names, that begin with its name and a slash. -/
def Holds (collection key : String) : Prop := ∃ rest, key = collection ++ "/" ++ rest

/-- Two collections are the same, or the name of one begins with that of the other and a slash. -/
def Overlaps (collection collection' : String) : Prop :=
  collection = collection' ∨ Holds collection collection' ∨ Holds collection' collection

variable {collection collection' key : String}

theorem holds_iff_startsWith : Holds collection key ↔ startsWith (collection ++ "/") key = true :=
  startsWith_iff.symm

instance : Decidable (Holds collection key) := decidable_of_iff' _ holds_iff_startsWith

theorem holds_iff_begins :
    Holds collection key ↔ collection.toList ++ ['/'] <+: key.toList := by
  have hstart : (collection ++ "/").toList = collection.toList ++ ['/'] := by
    rw [String.toList_append]
    rfl
  rw [holds_iff_startsWith, startsWith, List.isPrefixOf_iff_prefix, hstart]

/-- A collection holds the keys of its records, with whatever options. -/
theorem holds_topicKey (collection record : String) (options : Options) :
    Holds collection (options.topicKey (topic collection record)) := by
  obtain ⟨rest, hkey, -⟩ := options.exists_topicKey_eq_append (topic collection record)
  exact ⟨record ++ rest, by rw [hkey, topic, String.append_assoc]⟩

/-- Collections that hold a key in common overlap. -/
theorem overlaps_of_holds (h : Holds collection key) (h' : Holds collection' key) :
    Overlaps collection collection' := by
  -- of two beginnings of one key, one begins with the other
  have hshorter {c c' : String} (hbegins : c.toList ++ ['/'] <+: c'.toList ++ ['/']) :
      c = c' ∨ Holds c c' := by
    rcases List.prefix_concat_iff.1 hbegins with heq | hlonger
    · exact .inl (String.toList_injective (List.append_cancel_right heq))
    · exact .inr (holds_iff_begins.2 hlonger)
  rcases List.prefix_or_prefix_of_prefix (holds_iff_begins.1 h) (holds_iff_begins.1 h') with
    hbegins | hbegins
  · rcases hshorter hbegins with heq | hholds
    · exact .inl heq
    · exact .inr (.inl hholds)
  · rcases hshorter hbegins with heq | hholds
    · exact .inl heq.symm
    · exact .inr (.inr hholds)

/-- A collection holds no name without a slash. -/
theorem slash_mem_of_holds (h : Holds collection key) : '/' ∈ key.toList := by
  obtain ⟨rest, rfl⟩ := h
  simp

theorem topic_ne_empty (collection record : String) : topic collection record ≠ "" := by
  intro hempty
  have hholds : Holds collection (topic collection record) := ⟨record, rfl⟩
  have hslash := slash_mem_of_holds hholds
  rw [hempty] at hslash
  cases hslash

/-- A subscription to a record is one to its topic, by a listener of changes. -/
theorem eq_of_subscribe {collection record name : String} {options : Options} {crashes : Bool}
    {request : Engine.Request}
    (h : subscribe collection record options name crashes = .ok request) :
    request = .subscribe (topic collection record) options ⟨name, .change, crashes⟩ := by
  unfold subscribe at h
  split at h
  · cases h
  · exact (Except.ok.inj h).symm

/-- Different collections without a slash in their names do not overlap. -/
theorem not_overlaps_of_ne (hne : collection ≠ collection') (h : '/' ∉ collection.toList)
    (h' : '/' ∉ collection'.toList) : ¬ Overlaps collection collection' := by
  rintro (heq | hholds | hholds)
  · exact hne heq
  · exact h' (slash_mem_of_holds hholds)
  · exact h (slash_mem_of_holds hholds)

end Collection

/-- Removing the keys of a collection leaves all others as they are. -/
theorem Registry.entries_removeStarting_slash {L : Type} (r : Registry L)
    (collection key : String) :
    (r.removeStarting (collection ++ "/")).2.entries key =
      if Collection.Holds collection key then [] else r.entries key := by
  rw [entries_removeStarting]
  by_cases hholds : Collection.Holds collection key
  · rw [if_pos hholds, if_pos (Collection.holds_iff_startsWith.1 hholds)]
  · rw [if_neg hholds, if_neg fun hstarts => hholds (Collection.holds_iff_startsWith.2 hstarts)]

end TopicStream.Subscription
