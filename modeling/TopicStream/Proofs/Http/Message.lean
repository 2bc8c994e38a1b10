import TopicStream.Http.Transport

/-!
# The headers of a single request

A single request has the headers of the client, then the credential, and then the headers that the
request brings. The credential is there exactly if it is valid and the request does not bring one
itself, under a name that may be written in any case; so of a store that holds an invalid token
nothing can be told from a message.

## Main results

* `Transport.headers_requestMessage`: the headers in order;
* `Transport.authorizations_requestHeaders`: the credentials among them;
* `Transport.requestMessage_of_isValid` and `Transport.requestMessage_of_not_isValid`: both, told
  from the token of the store;
* `Transport.requestMessage_congr`: what of a store a message depends on.
-/

namespace TopicStream.Http

/-! ### Credentials among headers -/

/-- The values of the headers that carry a credential, in order. The case of their names does not
matter. -/
def authorizations (headers : List (String × String)) : List String :=
  (headers.filter fun h => sameName Transport.authorization h.1).map (·.2)

theorem authorizations_append (headers headers' : List (String × String)) :
    authorizations (headers ++ headers') = authorizations headers ++ authorizations headers' := by
  rw [authorizations, List.filter_append, List.map_append]
  rfl

/-- There are no credentials exactly if no name is that of the header for them. -/
theorem authorizations_eq_nil_iff {headers : List (String × String)} :
    authorizations headers = [] ↔
      ∀ name ∈ headers.map (·.1), sameName Transport.authorization name = false := by
  rw [authorizations, List.map_eq_nil_iff, List.filter_eq_nil_iff, List.forall_mem_map]
  simp only [Bool.not_eq_true]

/-- A credential that is exposed is carried by its header. -/
theorem authorizations_exposed {name : String}
    (hname : sameName Transport.authorization name = true) (exposed : Option String) :
    authorizations (exposed.map (name, ·)).toList = exposed.toList := by
  cases exposed with
  | none => rfl
  | some token => simp [authorizations, hname]

/-! ### Single requests -/

namespace Transport

/-- The headers of every single request. -/
def clientHeaders (t : Transport) : List (String × String) :=
  [("accept-language", t.lang), ("user-agent", t.userAgent)]

/-- The headers of a single request that brings some itself, while a credential is exposed or
none. -/
def requestHeaders (t : Transport) (exposed : Option String) (brought : List (String × String)) :
    List (String × String) :=
  t.clientHeaders ++
    (if authorizations brought = [] then (exposed.map (authorization, ·)).toList else []) ++ brought

theorem authorizations_clientHeaders (t : Transport) : authorizations t.clientHeaders = [] := by
  have hnames : ∀ name ∈ ["accept-language", "user-agent"],
      sameName authorization name = false := by decide
  exact authorizations_eq_nil_iff.2 hnames

/-- A single request carries the credentials that it brings, and if there are none the exposed
one. -/
theorem authorizations_requestHeaders (t : Transport) (exposed : Option String)
    (brought : List (String × String)) :
    authorizations (t.requestHeaders exposed brought) =
      if authorizations brought = [] then exposed.toList else authorizations brought := by
  rw [requestHeaders, authorizations_append, authorizations_append, authorizations_clientHeaders,
    List.nil_append]
  by_cases hnone : authorizations brought = []
  · rw [if_pos hnone, if_pos hnone, hnone, List.append_nil]
    exact authorizations_exposed (by decide) exposed
  · rw [if_neg hnone, if_neg hnone]
    rfl

section Message

variable (t : Transport) (path : String) (r : Request)

/-- The credential that is exposed is the token of the store while it is valid. -/
theorem headers_requestMessage (store : Credential.Store) (now : Int) :
    (t.requestMessage store now path r).headers =
      t.requestHeaders (store.validToken? now) r.headers.members := by
  have hadded : (store.validToken? now).toList.map (authorization, ·) =
      ((store.validToken? now).map (authorization, ·)).toList := by
    cases store.validToken? now <;> rfl
  rw [requestMessage, requestHeaders, hadded]
  -- whether the request brings a credential is told from the names of its headers
  have hbrings : authorizations r.headers.members = [] ↔
      r.headers.keys.any (sameName authorization) = false := by
    rw [authorizations_eq_nil_iff, List.any_eq_false]
    simp only [Bool.not_eq_true]
    rfl
  cases hany : r.headers.keys.any (sameName authorization) with
  | false =>
    rw [if_pos (hbrings.2 hany)]
    rfl
  | true =>
    rw [if_neg fun hnone => Bool.false_ne_true ((hbrings.1 hnone).symm.trans hany)]
    rfl

/-- The token of a store is added if it is valid and the request does not bring a credential. -/
theorem requestMessage_of_isValid {store : Credential.Store} {now : Int}
    (hvalid : Credential.isValid store.token now = true)
    (hnone : authorizations r.headers.members = []) :
    let m := t.requestMessage store now path r
    m.headers = t.clientHeaders ++ (authorization, store.token) :: r.headers.members ∧
      authorizations m.headers = [store.token] := by
  have hexposed : store.validToken? now = some store.token := if_pos hvalid
  simp only
  rw [headers_requestMessage, authorizations_requestHeaders, requestHeaders, hexposed,
    if_pos hnone, if_pos hnone, List.append_assoc]
  exact ⟨rfl, rfl⟩

/-- Otherwise there are the headers of the client and those of the request only. -/
theorem requestMessage_of_not_isValid {store : Credential.Store} {now : Int}
    (hnot : ¬ (Credential.isValid store.token now = true ∧
      authorizations r.headers.members = [])) :
    let m := t.requestMessage store now path r
    m.headers = t.clientHeaders ++ r.headers.members ∧
      authorizations m.headers = authorizations r.headers.members := by
  simp only
  rw [headers_requestMessage, authorizations_requestHeaders, requestHeaders]
  by_cases hnone : authorizations r.headers.members = []
  · have hexposed : store.validToken? now = none := if_neg fun hvalid => hnot ⟨hvalid, hnone⟩
    rw [if_pos hnone, if_pos hnone, hexposed, hnone]
    exact ⟨congrArg (· ++ r.headers.members) (List.append_nil _), rfl⟩
  · rw [if_neg hnone, if_neg hnone, List.append_nil]
    exact ⟨rfl, rfl⟩

/-- A message depends on a store by its valid token only. -/
theorem requestMessage_congr {store store' : Credential.Store} {now now' : Int}
    (h : store.validToken? now = store'.validToken? now') :
    t.requestMessage store now path r = t.requestMessage store' now' path r := by
  unfold requestMessage
  rw [h]

end Message

end Transport

end TopicStream.Http
