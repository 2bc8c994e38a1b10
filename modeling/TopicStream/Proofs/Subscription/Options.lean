import TopicStream.Proofs.Json.Unambiguity
import TopicStream.Proofs.KeyMap
import TopicStream.Subscription.Options

/-!
# Topic keys

The key of a topic with options can be taken apart again. What stands after its last equals sign is
the written form of the options, since written forms hold no such sign; decoding gives the text of
an object of the options, and that text determines them.

## Main results

* `Options.toJson_inj`: the object of the options determines them;
* `Options.topicKey_inj`: keys of topics with options determine both;
* `Options.topicKey_faithful`: the parts of a key, and that no two topics with options share one.
-/

namespace TopicStream

namespace Json

theorem ofMap_inj {m m' : KeyMap Json} (h : ofMap m = ofMap m') : m = m' := by
  obtain ⟨members, _⟩ := m
  obtain ⟨members', _⟩ := m'
  simpa [ofMap] using h

theorem ofTexts_inj {m m' : KeyMap String} (h : ofTexts m = ofTexts m') : m = m' := by
  obtain ⟨members, _⟩ := m
  obtain ⟨members', _⟩ := m'
  have hinj : ∀ p p' : String × String, (p.1, Json.string p.2) = (p'.1, Json.string p'.2) →
      p = p' := by
    rintro ⟨k, s⟩ ⟨k', s'⟩ heq
    simpa using heq
  simpa [ofTexts, List.map_inj_right hinj] using h

end Json

namespace Subscription.Options

variable {o o' : Options} {topic topic' : String}

/-! ### The object of the options -/

/-- The query is a member of the object exactly if it is not empty. -/
theorem member?_query (o : Options) :
    o.toJson.member? "query" = if o.query.isEmpty then .none else some (Json.ofMap o.query) := by
  by_cases hheaders : o.headers.isEmpty = true <;> by_cases hquery : o.query.isEmpty = true <;>
    simp [toJson, Json.member?, Members.get?, hheaders, hquery]

/-- The headers are a member of the object exactly if they are not empty. -/
theorem member?_headers (o : Options) :
    o.toJson.member? "headers" =
      if o.headers.isEmpty then .none else some (Json.ofTexts o.headers) := by
  by_cases hheaders : o.headers.isEmpty = true <;> by_cases hquery : o.query.isEmpty = true <;>
    simp [toJson, Json.member?, Members.get?, hheaders, hquery]

/-- The object of the options determines them. -/
theorem toJson_inj (h : o.toJson = o'.toJson) : o = o' := by
  have hempty : ∀ {α : Type} {m m' : KeyMap α}, m.isEmpty = true → m'.isEmpty = true → m = m' := by
    rintro α ⟨members, _⟩ ⟨members', _⟩ hm hm'
    simp_all [KeyMap.isEmpty]
  have hquery := o.member?_query.symm.trans ((congrArg _ h).trans o'.member?_query)
  have hheaders := o.member?_headers.symm.trans ((congrArg _ h).trans o'.member?_headers)
  obtain ⟨query, headers⟩ := o
  obtain ⟨query', headers'⟩ := o'
  -- a part that is no member is empty, and a part that is one can be read off it
  congr 1
  · split at hquery <;> split at hquery
    · exact hempty ‹_› ‹_›
    · cases hquery
    · cases hquery
    · exact Json.ofMap_inj (Option.some.inj hquery)
  · split at hheaders <;> split at hheaders
    · exact hempty ‹_› ‹_›
    · cases hheaders
    · cases hheaders
    · exact Json.ofTexts_inj (Option.some.inj hheaders)

/-- Options without floats in their query have an object without floats. -/
theorem isFloatFree_toJson (h : ∀ m ∈ o.query.members, m.2.isFloatFree = true) :
    o.toJson.isFloatFree = true := by
  have hheaders : (Json.ofTexts o.headers).isFloatFree = true := by
    rw [Json.ofTexts, Json.isFloatFree, Json.membersFloatFree_iff]
    intro m hm
    obtain ⟨p, -, rfl⟩ := List.mem_map.1 hm
    rfl
  have hquery : (Json.ofMap o.query).isFloatFree = true := by
    rwa [Json.ofMap, Json.isFloatFree, Json.membersFloatFree_iff]
  rw [toJson, Json.isFloatFree, Json.membersFloatFree_iff]
  intro m hm
  rcases List.mem_append.1 hm with hm | hm
  · split at hm
    · simp at hm
    · rwa [List.mem_singleton.1 hm]
  · split at hm
    · simp at hm
    · rwa [List.mem_singleton.1 hm]

/-! ### Keys -/

/-- The key of a topic with options, character by character. -/
theorem toList_topicKey (h : o.isEmpty = false) (topic : String) :
    (o.topicKey topic).toList =
      (topic.toList ++ [if '?' ∈ topic.toList then '&' else '?']) ++ "options".toList ++
        '=' :: Text.Form.encode o.toJson.text := by
  have hname : "options=".toList = "options".toList ++ ['='] := by decide
  rw [topicKey, h]
  simp [hname]

/-- Two lists that are cut at their last element of one kind are cut in the same place. -/
theorem append_cons_inj {α : Type} {x : α} {before before' after after' : List α}
    (hafter : x ∉ after) (hafter' : x ∉ after')
    (h : before ++ x :: after = before' ++ x :: after') : before = before' ∧ after = after' := by
  have hcons : ∀ {between after after' : List α}, x ∉ after →
      x :: after = between ++ x :: after' → between = [] := by
    intro between after after' hafter heq
    cases between with
    | nil => rfl
    | cons y between =>
      rw [List.cons_append, List.cons.injEq] at heq
      exact absurd (heq.2 ▸ List.mem_append_right _ List.mem_cons_self) hafter
  rcases List.append_eq_append_iff.1 h with ⟨between, hbefore, heq⟩ | ⟨between, hbefore, heq⟩
  · obtain rfl := hcons hafter heq
    simp_all
  · obtain rfl := hcons hafter' heq
    simp_all

/-- Keys of topics with options determine the topic and the options. -/
theorem topicKey_inj (ho : o.isEmpty = false) (ho' : o'.isEmpty = false)
    (hfree : ∀ m ∈ o.query.members, m.2.isFloatFree = true)
    (hfree' : ∀ m ∈ o'.query.members, m.2.isFloatFree = true)
    (h : o.topicKey topic = o'.topicKey topic') : topic = topic' ∧ o = o' := by
  have hsign : ∀ text, '=' ∉ Text.Form.encode text := fun text hmem =>
    absurd (Text.Form.isWritten_of_mem hmem) (by decide)
  have hkeys := congrArg String.toList h
  rw [toList_topicKey ho, toList_topicKey ho'] at hkeys
  -- the written forms hold no equals sign
  obtain ⟨hfront, hwritten⟩ := append_cons_inj (hsign _) (hsign _) hkeys
  have htopics := (List.append_inj' (List.append_cancel_right hfront) rfl).1
  have htexts := Text.Form.encode_injective hwritten
  exact ⟨String.toList_injective htopics,
    toJson_inj (Json.text_inj (isFloatFree_toJson hfree) (isFloatFree_toJson hfree') htexts)⟩

/-- Without options the key of a topic is the topic. With options it is the topic, a separator that
depends on whether the topic has a question mark, a name and the written form of the options, which
is decoded to the compact text of an object: its members are the query and the headers, each if it
is not empty. Two topics with options share a key only if they and their options are the same. -/
theorem topicKey_faithful :
    (∀ (o : Options) (topic : String), o.isEmpty = true → o.topicKey topic = topic) ∧
      (∀ (o : Options) (topic : String), o.isEmpty = false →
        ∃ (written : List Char) (members : List (String × Json)),
          (o.topicKey topic).toList = topic.toList ++
            (if '?' ∈ topic.toList then '&' else '?') :: ("options=".toList ++ written) ∧
          (∀ c ∈ written, c.isAlphanum = true ∨ c ∈ ['*', '-', '.', '_', '+', '%']) ∧
          Text.Form.decode written = (Json.object members).text ∧
          Members.Ascending members ∧
          ∀ name value, (name, value) ∈ members ↔
            name = "query" ∧ o.query.isEmpty = false ∧ value = Json.ofMap o.query ∨
              name = "headers" ∧ o.headers.isEmpty = false ∧ value = Json.ofTexts o.headers) ∧
      ∀ (o o' : Options) (topic topic' : String), o.isEmpty = false → o'.isEmpty = false →
        (∀ m ∈ o.query.members, m.2.isFloatFree = true) →
        (∀ m ∈ o'.query.members, m.2.isFloatFree = true) →
        (o.topicKey topic = o'.topicKey topic' ↔ topic = topic' ∧ o = o') := by
  refine ⟨fun o topic h => by rw [topicKey, if_pos h], fun o topic h => ?_,
    fun o o' topic topic' h h' hfree hfree' => ⟨topicKey_inj h h' hfree hfree', ?_⟩⟩
  · obtain ⟨members, hobject⟩ : ∃ members, o.toJson = .object members := ⟨_, rfl⟩
    refine ⟨Text.Form.encode o.toJson.text, members, ?_, ?_, ?_, ?_, ?_⟩
    · rw [toList_topicKey h, show "options=".toList = "options".toList ++ ['='] by decide]
      simp
    · intro c hc
      simpa [Text.Form.isWritten] using Text.Form.isWritten_of_mem hc
    · rw [Text.Form.decode_encode, hobject]
    all_goals
      rw [toJson, Json.object.injEq] at hobject
      subst hobject
    · refine List.pairwise_append.2 ⟨by split <;> simp, by split <;> simp, fun m hm m' hm' => ?_⟩
      have hname : m.1 = "headers" := by
        split at hm <;> simp_all
      have hname' : m'.1 = "query" := by
        split at hm' <;> simp_all
      rw [hname, hname']
      decide
    · intro name value
      by_cases hheaders : o.headers.isEmpty = true <;>
        by_cases hquery : o.query.isEmpty = true <;>
          simp [hheaders, hquery]
      exact or_comm
  · rintro ⟨rfl, rfl⟩
    rfl

/-- A topic that looks as if it ended in options, without any, with headers and a value that holds
the signs of the key, and the topic before its question mark, with a nested value. -/
theorem topicKey_faithful_lookalike :
    let o : Options := ⟨.ofList [("filter", .string "a=b&c?")], .ofList [("X-Token", "é")]⟩
    let o' : Options := ⟨.ofList [("filter", .array [.number (.integer (-1)), .null])], .empty⟩
    o.isEmpty = false ∧ o'.isEmpty = false ∧
      (∀ m ∈ o.query.members, m.2.isFloatFree = true) ∧
      (∀ m ∈ o'.query.members, m.2.isFloatFree = true) ∧
      none.topicKey "t?options=x" = "t?options=x" ∧
      (∃ written members,
        (o.topicKey "t?options=x").toList = "t?options=x&options=".toList ++ written ∧
          Text.Form.decode written = (Json.object members).text ∧
          ("headers", .object [("X-Token", .string "é")]) ∈ members) ∧
      o.topicKey "t?options=x" ≠ o'.topicKey "t" := by
  intro o o'
  have hfree : ∀ m ∈ o.query.members, m.2.isFloatFree = true := by decide
  have hfree' : ∀ m ∈ o'.query.members, m.2.isFloatFree = true := by decide
  obtain ⟨hnone, hparts, hinj⟩ := topicKey_faithful
  refine ⟨rfl, rfl, hfree, hfree', hnone none _ rfl, ?_, fun heq => ?_⟩
  · obtain ⟨written, members, hkey, -, htext, -, hmembers⟩ := hparts o "t?options=x" rfl
    exact ⟨written, members, hkey, htext, (hmembers _ _).2 (.inr ⟨rfl, rfl, rfl⟩)⟩
  · have htopics := ((hinj o o' _ _ rfl rfl hfree hfree').1 heq).1
    exact absurd htopics (by decide)

end Subscription.Options

end TopicStream
