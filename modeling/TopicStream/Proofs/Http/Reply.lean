import TopicStream.Http.Transport

/-!
# Replies that mean failure

When a reply makes a request fail with its status, and what the error then holds. The two kinds of
requests differ in both. A single request fails from status 400 on, and its error holds an object
whatever the body is. A stream fails outside of the statuses of success, and its error holds the
value that the body is, which need not be an object.

## Main results

* `send_eq_http_iff` and `openStream_eq_http_iff`: when either fails with a status;
* `Reply.isObject_of_reports` and `Reply.exists_streamReports_iff`: what kind of value is held;
* `http_failure_exact`: all of it together.
-/

namespace TopicStream.Http

/-! ### What an error holds of a body -/

/-- What the error of a single request holds of the body of a reply. -/
inductive Reply.Reports (reply : Reply) : Json → Prop
  /-- The object that the body is, if it is said to be JSON. -/
  | object {v : Json} (said : reply.isJson = true) (parsed : Json.parseChars reply.text = .ok v)
      (isObject : v.isObject = true) : Reports reply v
  /-- The empty object for every other body. -/
  | other (different : reply.isJson = true → ∀ v, Json.parseChars reply.text = .ok v →
      v.isObject = false) : Reports reply .emptyObject

/-- What the error of a stream holds of the body of a reply. -/
inductive Reply.StreamReports (reply : Reply) : Json → Prop
  /-- The value that the body is, whatever kind of value it is. -/
  | value {v : Json} (whole : reply.cut = false) (parsed : Json.parseChars reply.text = .ok v) :
      StreamReports reply v
  /-- The empty object for a body that is no JSON, or has been cut. -/
  | other (different : reply.cut = false → ∀ v, Json.parseChars reply.text ≠ .ok v) :
      StreamReports reply .emptyObject

namespace Reply

variable {reply : Reply} {v v' : Json}

theorem Reports.unique (h : reply.Reports v) (h' : reply.Reports v') : v = v' := by
  rcases h with ⟨said, parsed, isObject⟩ | different <;>
    rcases h' with ⟨said', parsed', isObject'⟩ | different'
  · exact Except.ok.inj (parsed.symm.trans parsed')
  · rw [different' said v parsed] at isObject
    cases isObject
  · rw [different said' v' parsed'] at isObject'
    cases isObject'
  · rfl

theorem StreamReports.unique (h : reply.StreamReports v) (h' : reply.StreamReports v') :
    v = v' := by
  rcases h with ⟨whole, parsed⟩ | different <;> rcases h' with ⟨whole', parsed'⟩ | different'
  · exact Except.ok.inj (parsed.symm.trans parsed')
  · exact absurd parsed (different' whole v)
  · exact absurd parsed' (different whole' v')
  · rfl

/-- The error of a single request holds what the body means, if that is an object. -/
theorem reports_bodyValue (reply : Reply) :
    reply.Reports (if (bodyValue reply.text reply.isJson).isObject then
      bodyValue reply.text reply.isJson else .emptyObject) := by
  unfold bodyValue
  split
  · -- the empty text is no JSON
    rename_i hempty
    refine .other fun _ v hparsed => ?_
    rw [List.isEmpty_iff.1 hempty] at hparsed
    cases hparsed
  · split
    · rename_i hsaid
      cases hparsed : Json.parseChars reply.text with
      | ok v =>
        by_cases hobject : v.isObject = true
        · rw [if_pos hobject]
          exact .object hsaid hparsed hobject
        · rw [if_neg hobject]
          refine .other fun _ v' hparsed' => ?_
          obtain rfl := Except.ok.inj (hparsed.symm.trans hparsed')
          exact Bool.not_eq_true _ ▸ hobject
      | error fault =>
        refine .other fun _ v hparsed' => ?_
        cases hparsed.symm.trans hparsed'
    · rename_i hsaid
      exact .other fun hsaid' => absurd hsaid' hsaid

/-- The error of a stream holds the value of what can be read of the body. -/
theorem streamReports_parseChars (reply : Reply) :
    reply.StreamReports (match Json.parseChars (if reply.cut then [] else reply.text) with
      | .ok v => v
      | .error _ => .emptyObject) := by
  cases hcut : reply.cut with
  | true => exact .other fun hwhole => by cases hcut.symm.trans hwhole
  | false =>
    rw [if_neg Bool.false_ne_true]
    cases hparsed : Json.parseChars reply.text with
    | ok v => exact .value hcut hparsed
    | error fault => exact .other fun _ v hparsed' => by cases hparsed.symm.trans hparsed'

/-- The error of a single request always holds an object. -/
theorem isObject_of_reports (h : reply.Reports v) : v.isObject = true := by
  cases h with
  | object said parsed isObject => exact isObject
  | other different => rfl

/-- The error of a stream holds something else exactly if the body is a JSON value of another
kind. -/
theorem exists_streamReports_iff :
    (∃ v, reply.StreamReports v ∧ v.isObject = false) ↔
      reply.cut = false ∧ ∃ v, Json.parseChars reply.text = .ok v ∧ v.isObject = false := by
  constructor
  · rintro ⟨v, ⟨whole, parsed⟩ | different, hkind⟩
    · exact ⟨whole, v, parsed, hkind⟩
    · cases hkind
  · rintro ⟨whole, v, parsed, hkind⟩
    exact ⟨v, .value whole parsed, hkind⟩

end Reply

/-! ### When a request fails with a status -/

section Failure

variable (t : Transport) (store : Credential.Store) (now : Int) (path : String) (r : Request)
  (headers : List (String × String)) (peer : Peer) {url : String} {status : Nat} {response : Json}

/-- A single request fails with a status exactly if it can be sent and is answered in full with that
status, of at least 400. -/
theorem send_eq_http_iff :
    t.send store now path r peer = .error (.http url status response) ↔
      (t.requestMessage store now path r).isSendable = true ∧
        ∃ reply, peer = .answers reply ∧ reply.cut = false ∧ 400 ≤ status ∧
          status = reply.status ∧ url = joinUrl t.baseUrl path r.query ∧
          reply.Reports response := by
  constructor
  · intro h
    unfold Transport.send at h
    simp only at h
    split at h
    · rename_i reply hsendable
      split at h
      · cases h
      · rename_i hwhole
        split at h
        · rename_i hstatus
          cases h
          exact ⟨hsendable, reply, rfl, by simpa using hwhole, hstatus, rfl, rfl,
            reply.reports_bodyValue⟩
        · cases h
    · cases h
  · rintro ⟨hsendable, reply, rfl, hwhole, hstatus, rfl, rfl, hresponse⟩
    -- what the body means is determined, and so is the error
    obtain rfl := hresponse.unique reply.reports_bodyValue
    unfold Transport.send
    simp only [hsendable, hwhole, Bool.false_eq_true, if_false, if_pos hstatus]
    rfl

/-- A request for a stream fails with a status exactly if it can be sent and is answered with that
status, outside of those of success. -/
theorem openStream_eq_http_iff :
    t.openStream path headers peer = .error (.http url status response) ↔
      (t.streamMessage path headers).isSendable = true ∧
        ∃ reply, peer = .answers reply ∧ ¬ (200 ≤ status ∧ status < 300) ∧
          status = reply.status ∧ url = joinUrl t.baseUrl path .empty ∧
          reply.StreamReports response := by
  have hsuccess (reply : Reply) :
      isSuccess reply.status = true ↔ 200 ≤ reply.status ∧ reply.status < 300 := by
    simp [isSuccess]
  constructor
  · intro h
    unfold Transport.openStream at h
    simp only at h
    split at h
    · rename_i reply hsendable
      split at h
      · cases h
      · rename_i hstatus
        cases h
        exact ⟨hsendable, reply, rfl, fun hin => hstatus ((hsuccess reply).2 hin), rfl, rfl,
          reply.streamReports_parseChars⟩
    · cases h
  · rintro ⟨hsendable, reply, rfl, hstatus, rfl, rfl, hresponse⟩
    obtain rfl := hresponse.unique reply.streamReports_parseChars
    unfold Transport.openStream
    simp only [hsendable, if_neg fun h => hstatus ((hsuccess reply).1 h)]
    rfl

end Failure

/-- When requests fail with a status, and with what. A single request that can be sent fails with
the status of a whole reply, from 400 on, and a stream with a status outside of those of success;
both name the address that was asked. The error of a single request holds the object that the body
is if it is said to be JSON, the empty object for every other body, and so always an object. The
error of a stream holds the value that the body is and the empty object if it is none, and so an
object unless the body is a JSON value of another kind. -/
theorem http_failure_exact (t : Transport) (path : String) (peer : Peer) (url : String)
    (status : Nat) (response : Json) :
    (∀ store now r, t.send store now path r peer = .error (.http url status response) ↔
      (t.requestMessage store now path r).isSendable = true ∧
        ∃ reply, peer = .answers reply ∧ reply.cut = false ∧ 400 ≤ status ∧
          status = reply.status ∧ url = joinUrl t.baseUrl path r.query ∧
          reply.Reports response) ∧
    (∀ headers, t.openStream path headers peer = .error (.http url status response) ↔
      (t.streamMessage path headers).isSendable = true ∧
        ∃ reply, peer = .answers reply ∧ ¬ (200 ≤ status ∧ status < 300) ∧
          status = reply.status ∧ url = joinUrl t.baseUrl path .empty ∧
          reply.StreamReports response) ∧
    (∀ (reply : Reply) v, reply.Reports v → v.isObject = true) ∧
    ∀ reply : Reply, (∃ v, reply.StreamReports v ∧ v.isObject = false) ↔
      reply.cut = false ∧ ∃ v, Json.parseChars reply.text = .ok v ∧ v.isObject = false :=
  ⟨fun store now r => send_eq_http_iff t store now path r peer,
    fun headers => openStream_eq_http_iff t path headers peer,
    fun _ _ => Reply.isObject_of_reports, fun _ => Reply.exists_streamReports_iff⟩

/-- A reply whose body is an array, and says so. -/
def arrayReply : Reply :=
  ⟨400, some jsonType, Text.Utf8.encode "[1]".toList, false⟩

theorem parseChars_arrayReply :
    Json.parseChars arrayReply.text = .ok (.array [.number (.integer 1)]) := by
  rfl

/-- A single request that gets the reply fails with the empty object, and a stream with the
array. -/
theorem http_failure_exact_array :
    let t : Transport := ⟨"http://h", "en", "client"⟩
    arrayReply.Reports .emptyObject ∧ Json.emptyObject.isObject = true ∧
      t.send .empty 0 realtimePath .plain (.answers arrayReply) =
        .error (.http "http://h/api/realtime" 400 .emptyObject) ∧
      t.openStream realtimePath [] (.answers arrayReply) =
        .error (.http "http://h/api/realtime" 400 (.array [.number (.integer 1)])) := by
  intro t
  have hreports : arrayReply.Reports .emptyObject := by
    refine .other fun _ v hparsed => ?_
    obtain rfl := Except.ok.inj (parseChars_arrayReply.symm.trans hparsed)
    rfl
  obtain ⟨hsend, -, hobject, -⟩ := http_failure_exact t realtimePath (.answers arrayReply)
    "http://h/api/realtime" 400 .emptyObject
  obtain ⟨-, hstream, -⟩ := http_failure_exact t realtimePath (.answers arrayReply)
    "http://h/api/realtime" 400 (.array [.number (.integer 1)])
  refine ⟨hreports, hobject arrayReply _ hreports, ?_, ?_⟩
  · exact (hsend .empty 0 .plain).2 ⟨by decide, _, rfl, rfl, by decide, rfl, by decide, hreports⟩
  · exact (hstream []).2
      ⟨by decide, _, rfl, by decide, rfl, by decide, .value rfl parseChars_arrayReply⟩

/-- The error of a stream need not hold an object, not even where the error of a single request
would. -/
theorem stream_failure_without_object :
    let t : Transport := ⟨"http://h", "en", "client"⟩
    let response := Json.array [.number (.integer 1)]
    t.openStream realtimePath [("Accept", "text/event-stream")] (.answers arrayReply) =
        .error (.http "http://h/api/realtime" 400 response) ∧
      response.isObject = false := by
  intro t response
  refine ⟨(openStream_eq_http_iff t realtimePath _ _).2 ?_, rfl⟩
  exact ⟨by decide, arrayReply, rfl, by decide, rfl, by decide, .value rfl parseChars_arrayReply⟩

end TopicStream.Http
