import TopicStream.Http.Url
import TopicStream.Proofs.KeyMap
import TopicStream.Proofs.Text.Form

/-!
# Queries read back

A query is written behind the address that there is without it, and can be read off again: written
parameters hold neither a question mark nor a number sign, and decoding gives the keys and the texts
of all values but null.

## Main results

* `mem_parameters`: which parameters are sent, as which texts;
* `toList_joinUrl`: where they are written;
* `joinUrl_query_exact`: both together, for the address that goes out.
-/

namespace TopicStream.Http

/-- What a value of a query is sent as. Null is not sent. -/
inductive SentAs : Json → String → Prop
  /-- A string is sent as it is. -/
  | string (s : String) : SentAs (.string s) s
  /-- Any other value is sent as its compact text. -/
  | text {v : Json} (some : v ≠ .null) (bare : ∀ s, v ≠ .string s) : SentAs v v.render

section Parameters

variable {query : KeyMap Json}

theorem parameter?_eq_some_iff {v : Json} {text : String} :
    parameter? v = some text ↔ SentAs v text := by
  constructor
  · intro h
    cases v with
    | null => cases h
    | string s =>
      obtain rfl : s = text := Option.some.inj h
      exact .string s
    | bool | number | array | object =>
      cases h
      exact .text nofun nofun
  · rintro (s | ⟨hsome, hbare⟩)
    · rfl
    · cases v with
      | null => exact absurd rfl hsome
      | string s => exact absurd rfl (hbare s)
      | bool | number | array | object => rfl

theorem parameter?_eq_none_iff {v : Json} : parameter? v = none ↔ v = .null := by
  cases v <;> simp [parameter?]

/-- Parameters are sent in ascending order of their keys, and no key twice. -/
theorem parameters_ascending (query : KeyMap Json) : Members.Ascending (parameters query) := by
  refine query.ascending.filterMap _ fun m m' hlt p hp p' hp' => ?_
  obtain ⟨text, -, rfl⟩ := Option.map_eq_some_iff.1 hp
  obtain ⟨text', -, rfl⟩ := Option.map_eq_some_iff.1 hp'
  exact hlt

/-- The parameters that are sent are those whose values are not null. -/
theorem mem_parameters {key text : String} :
    (key, text) ∈ parameters query ↔ ∃ value, query.get? key = some value ∧ SentAs value text := by
  simp only [parameters, List.mem_filterMap, Option.map_eq_some_iff, parameter?_eq_some_iff,
    Prod.mk.injEq, KeyMap.get?_eq_some_iff]
  constructor
  · rintro ⟨⟨_, value⟩, hmem, _, hsent, rfl, rfl⟩
    exact ⟨value, hmem, hsent⟩
  · rintro ⟨value, hmem, hsent⟩
    exact ⟨(key, value), hmem, text, hsent, rfl, rfl⟩

/-- Nothing is sent exactly if there is nothing but null. -/
theorem parameters_eq_nil_iff :
    parameters query = [] ↔ ∀ m ∈ query.members, m.2 = .null := by
  simp [parameters, parameter?_eq_none_iff]

end Parameters

/-- The parameters that are sent are written behind the address that there is without them. A
question mark stands before them, or an ampersand if there is a question mark already. -/
theorem toList_joinUrl {query : KeyMap Json} (h : parameters query ≠ []) (base path : String) :
    (joinUrl base path query).toList = (joinUrl base path .empty).toList ++
      (if '?' ∈ (joinUrl base path .empty).toList then '&' else '?') ::
        Text.Form.encodePairs (parameters query) := by
  have hplain : (joinUrl base path .empty).toList = joinPath base.toList path.toList :=
    String.toList_ofList
  rw [hplain, joinUrl]
  split
  · exact absurd ‹_› h
  · simp

/-- The address of a path with a query. If all values of the query are null, it is the address
without a query. Otherwise it is that address, an ampersand if it has a question mark and a question
mark if it has none, and a text without a question mark or number sign that is decoded to the keys
and texts of the values that are not null, in ascending order of the keys. -/
theorem joinUrl_query_exact (base path : String) (query : KeyMap Json) :
    ((∀ m ∈ query.members, m.2 = .null) →
      joinUrl base path query = joinUrl base path .empty) ∧
    ((∃ m ∈ query.members, m.2 ≠ .null) →
      ∃ written : List Char,
        (joinUrl base path query).toList = (joinUrl base path .empty).toList ++
          (if '?' ∈ (joinUrl base path .empty).toList then '&' else '?') :: written ∧
        '?' ∉ written ∧ '#' ∉ written ∧
        Members.Ascending (Text.Form.decodePairs written) ∧
        ∀ key text, (key, text) ∈ Text.Form.decodePairs written ↔
          ∃ value, query.get? key = some value ∧ SentAs value text) := by
  constructor
  · intro hnull
    rw [joinUrl, parameters_eq_nil_iff.2 hnull]
    rfl
  · rintro ⟨m, hm, hsome⟩
    have hsent : parameters query ≠ [] := fun hnil =>
      hsome (parameters_eq_nil_iff.1 hnil m hm)
    -- all that is written are encoded characters and the two signs between them
    have hmarks {c : Char} (hc : Text.Form.isWritten c = false) (hequals : c ≠ '=')
        (hampersand : c ≠ '&') : c ∉ Text.Form.encodePairs (parameters query) := by
      intro hmem
      rcases Text.Form.of_mem_encodePairs hmem with hwritten | heq | heq
      · rw [hc] at hwritten
        cases hwritten
      · exact hequals heq
      · exact hampersand heq
    refine ⟨_, toList_joinUrl hsent base path, hmarks (by decide) (by decide) (by decide),
      hmarks (by decide) (by decide) (by decide), ?_⟩
    rw [Text.Form.decodePairs_encodePairs]
    exact ⟨parameters_ascending query, fun key text => mem_parameters⟩

/-- An empty key, a key and a value that hold the signs of the format, a value that is no string,
and null, behind an address that has a question mark. -/
theorem joinUrl_query_exact_signs :
    let query := KeyMap.ofList
      [("", .string "é +%"), ("a&b=c", .string "1&2=3#4"), ("gone", .null), ("n", .array [.null])]
    (∃ m ∈ query.members, m.2 ≠ .null) ∧
      ∃ written, (joinUrl "http://h/?x=1" "y" query).toList = "http://h/?x=1/y&".toList ++ written ∧
        '#' ∉ written ∧ ("", "é +%") ∈ Text.Form.decodePairs written ∧
        ("a&b=c", "1&2=3#4") ∈ Text.Form.decodePairs written ∧
        ("n", "[null]") ∈ Text.Form.decodePairs written ∧
        ∀ text, ("gone", text) ∉ Text.Form.decodePairs written := by
  intro query
  have hempty : query.get? "" = some (.string "é +%") := rfl
  have hsome : ∃ m ∈ query.members, m.2 ≠ .null := ⟨_, KeyMap.get?_eq_some_iff.1 hempty, nofun⟩
  obtain ⟨written, hurl, -, hnumber, -, hmem⟩ :=
    (joinUrl_query_exact "http://h/?x=1" "y" query).2 hsome
  refine ⟨hsome, written, ?_, hnumber, (hmem _ _).2 ⟨_, rfl, .string _⟩,
    (hmem _ _).2 ⟨_, rfl, .string _⟩, (hmem _ _).2 ⟨.array [.null], rfl, .text nofun nofun⟩, ?_⟩
  · rw [hurl]
    rfl
  · intro text hgone
    obtain ⟨value, hvalue, hsent⟩ := (hmem _ _).1 hgone
    cases hvalue
    cases hsent with
    | text some bare => exact some rfl

end TopicStream.Http
