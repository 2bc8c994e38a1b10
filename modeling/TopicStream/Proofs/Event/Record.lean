import TopicStream.Event.Decoder
import TopicStream.Proofs.Json.Reading

/-!
# Records written and read back

The text of a record is an object around its payload, and so nests one level more than the payload
does. A decoder reads payloads that nest up to the bound on nesting; the text of a record whose
payload is at the bound is therefore not read back. The other exception is a payload `null`, which
is read as no payload.

## Main results

* `Decoder.payload_of_push`: what payloads a decoder can give;
* `Record.parse_render_exact`: what is read back from the text of a record.
-/

namespace TopicStream

/-! ### Reading fields -/

namespace Json

section Shape

variable {δ α : Type} (shape : Shape δ α)

/-- A member with the key of a field is read by the reader of that field. -/
theorem readMembers_field {inner fuel : Nat} {first : Bool} {lead : List Char}
    (hlead : Lead first lead) {k : String} {field : Field δ}
    (hfield : shape.fields.find? (·.name == k) = some field) {draft : δ}
    (hset : field.isSet draft = false) (hinner : (quote k).length ≤ inner) (text : List Char) :
    shape.readMembers inner (fuel + 1) first draft (lead ++ (quote k ++ ':' :: text)) = (do
      let (draft, rest) ← field.read inner draft text
      shape.readMembers inner fuel false draft rest) := by
  obtain ⟨key, hkey, hstring⟩ :=
    readString_of_stringSays (stringSays_quote k) hinner (':' :: text)
  have hnext := nextKey_lead hlead blank_nil key
  rw [List.nil_append, ← hkey] at hnext
  have hcolon := afterColon_eq_ok_iff.2 ⟨[], blank_nil, Eq.refl ([] ++ ':' :: text)⟩
  rw [Shape.readMembers, hnext]
  simp only [lift, Except.mapError, bind, Except.bind, hstring, hfield, hset, Bool.false_eq_true,
    if_false]
  rw [show afterColon (':' :: text) = .ok text from hcolon]

/-- At the closing brace the draft is left as it is. -/
theorem readMembers_close (inner fuel : Nat) (first : Bool) (draft : δ) (rest : List Char) :
    shape.readMembers inner (fuel + 1) first draft ('\x7d' :: rest) = .ok (draft, rest) := by
  rw [Shape.readMembers, show nextKey first ('\x7d' :: rest) = .ok (none, rest) from
    nextKey_close first blank_nil rest]
  rfl

/-- An object is read by its members. -/
theorem read_object (fuel : Nat) (text : List Char) :
    shape.read fuel ('\x7b' :: text) = (do
      let (draft, rest) ← shape.readMembers fuel fuel true shape.start text
      let record ← (shape.finish draft).mapError .mismatch
      .ok (record, rest)) := by
  rw [Shape.read, skipBlanks_cons (by decide)]
  rfl

/-- A text that is read to its end is parsed. -/
theorem parse_of_read {text : List Char} {record : α}
    (h : shape.read (text.length + 1) text = .ok (record, [])) :
    shape.parse (String.ofList text) = .ok record := by
  rw [Shape.parse, String.toList_ofList, h]
  rfl

theorem exists_parse_eq_error {text : List Char} {obstacle : Obstacle}
    (h : shape.read (text.length + 1) text = .error obstacle) :
    ∃ e, shape.parse (String.ofList text) = .error e := by
  rw [Shape.parse, String.toList_ofList, h]
  exact ⟨_, rfl⟩

end Shape

theorem textField_quote {fuel : Nat} {s : String} (hfuel : (quote s).length ≤ fuel)
    (rest : List Char) : textField fuel (quote s ++ rest) = .ok (s, rest) := by
  obtain ⟨inner, hinner, hstring⟩ := readString_of_stringSays (stringSays_quote s) hfuel rest
  rw [hinner, textField, skipBlanks_cons (by decide)]
  simp only [if_true, hstring]
  rfl

theorem optionalField_quote {fuel : Nat} {s : String} (hfuel : (quote s).length ≤ fuel)
    (rest : List Char) :
    optionalField (textField fuel) (quote s ++ rest) = .ok (some s, rest) := by
  have hquote : quote s ++ rest = '"' :: (s.toList.flatMap escapeChar ++ '"' :: rest) := by
    simp [quote]
  have htext := textField_quote hfuel rest
  rw [hquote] at htext ⊢
  rw [optionalField, skipBlanks_cons (by decide)]
  simp only [bind, Except.bind, htext]
  rfl

section Value

variable {fuel : Nat} {v : Json} {rest : List Char}

theorem optionalField_null (rest : List Char) :
    optionalField (valueField fuel) (Json.null.text ++ rest) = .ok (none, rest) := by
  rfl

/-- A value other than `null` is read as part of a record with one level less of nesting. -/
theorem optionalField_text (hfree : v.isFloatFree = true) (hnull : v ≠ .null) :
    optionalField (valueField fuel) (v.text ++ rest) = (do
      let (v, rest) ← lift (readValue fuel (maxDepth - 1) (v.text ++ rest))
      .ok (some v, rest)) := by
  obtain ⟨c, text, htext, hkind⟩ := exists_text_eq_cons hfree
  have hn : kindOf? 'n' ≠ some v.kind := by
    cases v with
    | null => exact absurd rfl hnull
    | bool b => cases b <;> nofun
    | _ => nofun
  rw [htext, List.cons_append, optionalField, skipBlanks_cons (isBlank_of_kindOf? hkind)]
  simp only [ne_of_kindOf? hkind hn, if_false]
  rfl

theorem optionalField_eq_ok (hv : v.WellFormed) (hfree : v.isFloatFree = true) (hnull : v ≠ .null)
    (hnesting : v.nesting ≤ maxDepth - 1) (hfuel : v.text.length < fuel)
    (hrest : endsLiteral rest = true) :
    optionalField (valueField fuel) (v.text ++ rest) = .ok (some v, rest) := by
  rw [optionalField_text hfree hnull, readValue_text hv hfree hnesting hfuel hrest]
  rfl

theorem exists_optionalField_eq_error (hv : v.WellFormed) (hfree : v.isFloatFree = true)
    (hnesting : maxDepth - 1 < v.nesting) (hfuel : v.text.length < fuel)
    (hrest : endsLiteral rest = true) :
    ∃ e, optionalField (valueField fuel) (v.text ++ rest) = .error e := by
  have hnull : v ≠ .null := by
    rintro rfl
    exact Nat.not_lt_zero _ hnesting
  rw [optionalField_text hfree hnull]
  cases hread : readValue fuel (maxDepth - 1) (v.text ++ rest) with
  | error e => exact ⟨_, rfl⟩
  | ok x =>
    have hle := nesting_le_of_readValue_text hv hfree hfuel hrest hread
    exact absurd hle (Nat.not_le.2 hnesting)

end Value

end Json

namespace Event

/-! ### Payloads -/

/-- A payload is a value that a text within the bound on nesting says, or an object that holds such
a text. -/
theorem payload?_eq_some {data : List (List Char)} {v : Json} (h : payload? data = some v) :
    v.WellFormed ∧ v.nesting ≤ Json.maxDepth := by
  unfold payload? at h
  split at h
  · cases h
  dsimp only at h
  split at h
  · rename_i value hparse
    cases h
    exact Json.wellFormed_of_textSays (Json.parseChars_eq_ok_iff.1 hparse)
  · cases h
    have hbound : (Json.object [("raw", .string "")]).nesting ≤ Json.maxDepth := by decide
    exact ⟨⟨List.pairwise_singleton _ _, trivial, trivial⟩, hbound⟩

namespace Decoder

/-- The records that lines complete have payloads of data fields. -/
theorem payload_of_takeLines {d : Decoder} {lines : List Bytes} {r : Record}
    (hr : r ∈ (d.takeLines lines).1) : ∃ data, r.payload = payload? data := by
  induction lines generalizing d with
  | nil => simp [takeLines] at hr
  | cons line lines ih =>
    rw [takeLines] at hr
    rcases List.mem_append.1 hr with hr | hr
    · cases hline : Line.ofBytes line with
      | blank =>
        rw [hline] at hr
        obtain rfl := List.mem_singleton.1 hr
        exact ⟨d.data.reverse, rfl⟩
      | comment =>
        rw [hline] at hr
        cases hr
      | field name value =>
        rw [hline] at hr
        cases hr
    · exact ih hr

theorem payload_of_push {d : Decoder} {chunk : Bytes} {r : Record}
    (hr : r ∈ (d.push chunk).1) {v : Json} (hv : r.payload = some v) :
    v.WellFormed ∧ v.nesting ≤ Json.maxDepth := by
  obtain ⟨data, hdata⟩ := payload_of_takeLines hr
  exact payload?_eq_some (hdata.symm.trans hv)

end Decoder

namespace Record

/-! ### Texts of records -/

section Text

variable {r : Record}

/-- The members of a record after its name. -/
def idMembers (r : Record) : List (String × Json) :=
  (r.id.map fun id => ("id", Json.string id)).toList

/-- The last member of a record. -/
def dataMembers (r : Record) : List (String × Json) :=
  (r.payload.map fun payload => ("data", payload)).toList

theorem text_toJson (r : Record) :
    r.toJson.text = '\x7b' :: (Json.quote "event" ++ ':' ::
      (Json.quote r.event ++ Json.membersText (r.idMembers ++ r.dataMembers))) := rfl

/-- The name of a record is read. -/
theorem readMembers_event (fuel : Nat) {inner : Nat} {event : String}
    (hkey : (Json.quote "event").length ≤ inner) (hinner : (Json.quote event).length ≤ inner)
    (rest : List Char) :
    shape.readMembers inner (fuel + 1) true shape.start
        (Json.quote "event" ++ ':' :: (Json.quote event ++ rest)) =
      shape.readMembers inner fuel false ⟨some event, none, none⟩ rest := by
  refine (Json.readMembers_field shape .bracket (k := "event") rfl rfl hkey _).trans ?_
  dsimp only
  rw [Json.textField_quote hinner]
  rfl

/-- The id of a record is read. -/
theorem readMembers_id (fuel : Nat) {inner : Nat} {event id : String}
    (hkey : (Json.quote "id").length ≤ inner) (hinner : (Json.quote id).length ≤ inner)
    (rest : List Char) :
    shape.readMembers inner (fuel + 1) false ⟨some event, none, none⟩
        (',' :: (Json.quote "id" ++ ':' :: (Json.quote id ++ rest))) =
      shape.readMembers inner fuel false ⟨some event, some (some id), none⟩ rest := by
  refine (Json.readMembers_field shape (.comma Json.blank_nil) (k := "id") rfl rfl hkey _).trans ?_
  dsimp only
  rw [Json.optionalField_quote hinner]
  rfl

/-- The payload of a record is read as a field that may be `null`, up to the closing brace. -/
theorem readMembers_data (fuel : Nat) {inner : Nat} {event : Option String}
    {id : Option (Option String)}
    (hkey : (Json.quote "data").length ≤ inner) (payload : Json) :
    shape.readMembers inner (fuel + 2) false ⟨event, id, none⟩
        (',' :: (Json.quote "data" ++ ':' :: (payload.text ++ ['\x7d']))) = (do
      let (v, rest) ← Json.optionalField (Json.valueField inner) (payload.text ++ ['\x7d'])
      shape.readMembers inner (fuel + 1) false ⟨event, id, some v⟩ rest) := by
  refine (Json.readMembers_field shape (.comma Json.blank_nil) (k := "data") rfl rfl hkey
    _).trans ?_
  dsimp only
  cases Json.optionalField (Json.valueField inner) (payload.text ++ ['\x7d']) <;> rfl

/-- Name and id are read before the payload. -/
theorem readMembers_eq (r : Record) {fuel : Nat} (hfuel : r.toJson.text.length < fuel) :
    ∃ more, shape.readMembers fuel fuel true shape.start
        (Json.quote "event" ++ ':' ::
          (Json.quote r.event ++ Json.membersText (r.idMembers ++ r.dataMembers))) =
      shape.readMembers fuel (more + 2) false ⟨some r.event, r.id.map some, none⟩
        (Json.membersText r.dataMembers) := by
  rw [text_toJson] at hfuel
  have hkey : (Json.quote "event").length = 7 := by decide
  have hkey' : (Json.quote "id").length = 4 := by decide
  simp only [List.length_cons, List.length_append, hkey] at hfuel
  -- the three members take a step each, and so does the closing brace
  obtain ⟨more, hmore⟩ : ∃ more, more + 3 + 1 = fuel := ⟨fuel - 4, by omega⟩
  have hevent := readMembers_event (more + 3) (show _ ≤ fuel by omega)
    (show (Json.quote r.event).length ≤ fuel by omega)
    (Json.membersText (r.idMembers ++ r.dataMembers))
  rw [hmore] at hevent
  cases hid : r.id with
  | none =>
    have hmembers : r.idMembers = [] := by
      rw [idMembers, hid]
      rfl
    rw [hmembers] at hevent ⊢
    exact ⟨more + 1, hevent⟩
  | some id =>
    have hmembers : r.idMembers = [("id", .string id)] := by
      rw [idMembers, hid]
      rfl
    have htext : Json.membersText ([("id", .string id)] ++ r.dataMembers) =
      ',' :: (Json.quote "id" ++ ':' :: (Json.quote id ++ Json.membersText r.dataMembers)) := rfl
    rw [hmembers, htext] at hevent hfuel
    simp only [List.length_cons, List.length_append] at hfuel
    rw [hmembers, htext]
    exact ⟨more, hevent.trans (readMembers_id (more + 2) (by omega) (by omega) _)⟩

/-- A record without a payload ends behind its name and id. -/
theorem readMembers_of_payload_none {fuel : Nat} (hfuel : r.toJson.text.length < fuel)
    (hpayload : r.payload = none) :
    shape.readMembers fuel fuel true shape.start
        (Json.quote "event" ++ ':' ::
          (Json.quote r.event ++ Json.membersText (r.idMembers ++ r.dataMembers))) =
      .ok (⟨some r.event, r.id.map some, none⟩, []) := by
  obtain ⟨more, hmore⟩ := readMembers_eq r hfuel
  have hmembers : r.dataMembers = [] := by
    rw [dataMembers, hpayload]
    rfl
  rw [hmore, hmembers]
  exact Json.readMembers_close shape fuel (more + 1) false _ []

/-- The payload of a record and its key are parts of the text of the record. -/
theorem length_payload_lt {v : Json} (hpayload : r.payload = some v) :
    (Json.quote "data").length + v.text.length < r.toJson.text.length := by
  rw [text_toJson, idMembers, dataMembers, hpayload]
  cases r.id <;> simp [Json.membersText] <;> omega

/-- A payload is read behind name and id. -/
theorem readMembers_of_payload {fuel : Nat} (hfuel : r.toJson.text.length < fuel) {v : Json}
    (hpayload : r.payload = some v) :
    ∃ more, shape.readMembers fuel fuel true shape.start
        (Json.quote "event" ++ ':' ::
          (Json.quote r.event ++ Json.membersText (r.idMembers ++ r.dataMembers))) = (do
      let (payload, rest) ← Json.optionalField (Json.valueField fuel) (v.text ++ ['\x7d'])
      shape.readMembers fuel (more + 1) false ⟨some r.event, r.id.map some, some payload⟩
        rest) := by
  obtain ⟨more, hmore⟩ := readMembers_eq r hfuel
  have hmembers : r.dataMembers = [("data", v)] := by
    rw [dataMembers, hpayload]
    rfl
  have htext : Json.membersText [("data", v)] =
    ',' :: (Json.quote "data" ++ ':' :: (v.text ++ ['\x7d'])) := rfl
  have hkey := length_payload_lt hpayload
  refine ⟨more, ?_⟩
  rw [hmore, hmembers, htext, readMembers_data more (by omega) v]

/-- A record of which all members have been read is read. -/
theorem read_of_draft {fuel : Nat} {payload : Option (Option Json)}
    (h : shape.readMembers fuel fuel true shape.start
      (Json.quote "event" ++ ':' ::
        (Json.quote r.event ++ Json.membersText (r.idMembers ++ r.dataMembers))) =
      .ok (⟨some r.event, r.id.map some, payload⟩, [])) :
    shape.read fuel r.toJson.text = .ok ({ r with payload := payload.join }, []) := by
  have hfinish : shape.finish ⟨some r.event, r.id.map some, payload⟩ =
      .ok { r with payload := payload.join } := by
    obtain ⟨event, id, -⟩ := r
    cases id <;> rfl
  rw [text_toJson, Json.read_object, h]
  exact Json.bind_eq_ok_iff.2 ⟨_, rfl, Json.bind_eq_ok_iff.2
    ⟨{ r with payload := payload.join }, by rw [hfinish]; rfl, rfl⟩⟩

theorem parse_of_payload_none (hpayload : r.payload = none) : parse r.render = .ok r := by
  have hread := read_of_draft (readMembers_of_payload_none (Nat.lt_succ_self _) hpayload)
  have hrecord : { r with payload := (none : Option (Option Json)).join } = r := by
    rw [Option.join_none, ← hpayload]
  rw [hrecord] at hread
  exact Json.parse_of_read shape hread

/-- A record is read back with what is read for its payload. -/
theorem parse_of_payload {v : Json} (hpayload : r.payload = some v) {payload : Option Json}
    (h : Json.optionalField (Json.valueField (r.toJson.text.length + 1)) (v.text ++ ['\x7d']) =
      .ok (payload, ['\x7d'])) : parse r.render = .ok { r with payload } := by
  obtain ⟨more, hmore⟩ := readMembers_of_payload (Nat.lt_succ_self _) hpayload
  rw [h] at hmore
  have hclose := Json.readMembers_close shape (r.toJson.text.length + 1) more false
    ⟨some r.event, r.id.map some, some payload⟩ []
  exact Json.parse_of_read shape (read_of_draft (hmore.trans hclose))

/-- A record is not read back if its payload is not. -/
theorem exists_parse_eq_error {v : Json} (hpayload : r.payload = some v) {e : Json.Obstacle}
    (h : Json.optionalField (Json.valueField (r.toJson.text.length + 1)) (v.text ++ ['\x7d']) =
      .error e) : ∃ e, parse r.render = .error e := by
  obtain ⟨more, hmore⟩ := readMembers_of_payload (Nat.lt_succ_self _) hpayload
  rw [h] at hmore
  have hread : shape.read (r.toJson.text.length + 1) r.toJson.text = .error e := by
    rw [text_toJson, Json.read_object, ← text_toJson, hmore]
    rfl
  exact Json.exists_parse_eq_error shape hread

/-- What is read back from a record with a payload. -/
theorem parse_cases {v : Json} (hpayload : r.payload = some v) (hv : v.WellFormed)
    (hfree : v.isFloatFree = true) (hnesting : v.nesting ≤ Json.maxDepth) :
    (v = .null ∧ parse r.render = .ok { r with payload := none }) ∨
      (v ≠ .null ∧ v.nesting < Json.maxDepth ∧ parse r.render = .ok r) ∨
      (v.nesting = Json.maxDepth ∧ ∃ e, parse r.render = .error e) := by
  have hfuel : v.text.length < r.toJson.text.length + 1 := by
    have hlt := length_payload_lt hpayload
    omega
  rcases Nat.lt_or_eq_of_le hnesting with hlt | heq
  · by_cases hnull : v = .null
    · subst hnull
      exact .inl ⟨rfl, parse_of_payload hpayload (Json.optionalField_null _)⟩
    · have hread := Json.optionalField_eq_ok hv hfree hnull (Nat.le_sub_one_of_lt hlt) hfuel
        (rfl : Json.endsLiteral ['\x7d'] = true)
      have hparse := parse_of_payload hpayload hread
      have hrecord : { r with payload := some v } = r := by rw [← hpayload]
      rw [hrecord] at hparse
      exact .inr (.inl ⟨hnull, hlt, hparse⟩)
  · -- inside the record one level less is left
    have hdeep : Json.maxDepth - 1 < v.nesting := by
      rw [heq]
      decide
    obtain ⟨e, he⟩ := Json.exists_optionalField_eq_error hv hfree hdeep hfuel
      (rfl : Json.endsLiteral ['\x7d'] = true)
    exact .inr (.inr ⟨heq, exists_parse_eq_error hpayload he⟩)

end Text

/-- What is read back from the text of a record that a decoder has given, if its payload holds no
float: the record itself, unless its payload is `null`, which is read as no payload, or nests as
deep as is accepted at all, so that it is too deep inside the record. Name and id are read back
whenever the record is. -/
theorem parse_render_exact {d : Decoder} {chunk : Bytes} {r : Record} (hr : r ∈ (d.push chunk).1)
    (hfree : ∀ v, r.payload = some v → v.isFloatFree = true) :
    (∀ v, r.payload = some v → v.nesting ≤ Json.maxDepth) ∧
    ((∀ v, r.payload = some v → v ≠ .null ∧ v.nesting < Json.maxDepth) →
      parse r.render = .ok r) ∧
    (r.payload = some .null → parse r.render = .ok { r with payload := none }) ∧
    ((∃ e, parse r.render = .error e) ↔ ∃ v, r.payload = some v ∧ v.nesting = Json.maxDepth) ∧
    ∀ r', parse r.render = .ok r' → r'.event = r.event ∧ r'.id = r.id := by
  cases hpayload : r.payload with
  | none =>
    have hparse := parse_of_payload_none hpayload
    rw [hparse]
    refine ⟨nofun, fun _ => rfl, nofun, ⟨nofun, nofun⟩, fun r' hr' => ?_⟩
    cases hr'
    exact ⟨rfl, rfl⟩
  | some v =>
    obtain ⟨hv, hnesting⟩ := Decoder.payload_of_push hr hpayload
    have hbound : Json.null.nesting ≠ Json.maxDepth := by decide
    rcases parse_cases hpayload hv (hfree v hpayload) hnesting with
      ⟨rfl, hparse⟩ | ⟨hnull, hlt, hparse⟩ | ⟨heq, e, hparse⟩
    -- null is read as no payload, other payloads as themselves until they are too deep
    · rw [hparse]
      refine ⟨fun v hv => ?_, fun h => absurd rfl (h _ rfl).1, fun _ => rfl, ⟨nofun, ?_⟩, ?_⟩
      · cases hv
        exact hnesting
      · rintro ⟨v, hv, heq⟩
        cases hv
        exact absurd heq hbound
      · intro r' hr'
        cases hr'
        exact ⟨rfl, rfl⟩
    · rw [hparse]
      refine ⟨fun v hv => ?_, fun _ => rfl, fun h => ?_, ⟨nofun, ?_⟩, ?_⟩
      · cases hv
        exact hnesting
      · exact absurd (Option.some.inj h) hnull
      · rintro ⟨v, hv, heq⟩
        cases hv
        exact absurd heq (Nat.ne_of_lt hlt)
      · intro r' hr'
        cases hr'
        exact ⟨rfl, rfl⟩
    · rw [hparse]
      refine ⟨fun v hv => ?_, fun h => ?_, fun h => ?_, ⟨fun _ => ⟨v, rfl, heq⟩, fun _ => ⟨e, rfl⟩⟩,
        nofun⟩
      · cases hv
        exact hnesting
      · exact absurd heq (Nat.ne_of_lt (h v rfl).2)
      · obtain rfl := Option.some.inj h
        exact absurd heq hbound

/-- A frame with an empty id, whose payload are empty arrays nested to a depth. -/
def nestedArrays (depth : Nat) : Bytes :=
  Text.Utf8.encode (['i', 'd', '\n', 'd', 'a', 't', 'a', ':'] ++ List.replicate depth '[' ++
    List.replicate depth ']' ++ ['\n', '\n'])

/-- Whether the payload of a record holds no float and nests to a depth. -/
def nests (depth : Nat) (r : Record) : Bool :=
  r.payload.any fun v => v.isFloatFree && v.nesting == depth

/-- A payload of 126 levels is read back with its record, one of 127 levels is not. -/
theorem parse_render_exact_nested :
    (∃ r ∈ (Decoder.empty.push (nestedArrays 126)).1, parse r.render = .ok r) ∧
      ∃ r ∈ (Decoder.empty.push (nestedArrays 127)).1, ∃ e, parse r.render = .error e := by
  have hpayload : ∀ {depth r}, nests depth r = true →
      ∃ v, r.payload = some v ∧ v.isFloatFree = true ∧ v.nesting = depth := by
    intro depth r h
    cases hr : r.payload with
    | none => simp [nests, hr] at h
    | some v => exact ⟨v, rfl, by simpa [nests, hr] using h⟩
  constructor
  · obtain ⟨r, hr, hnests⟩ := List.any_eq_true.1
      (show (Decoder.empty.push (nestedArrays 126)).1.any (nests 126) = true by decide +kernel)
    obtain ⟨v, hv, hfree, hnesting⟩ := hpayload hnests
    obtain ⟨-, hback, -⟩ := parse_render_exact hr fun w hw => by
      cases hv.symm.trans hw
      exact hfree
    refine ⟨r, hr, hback fun w hw => ?_⟩
    cases hv.symm.trans hw
    have hnull : v ≠ .null := by
      rintro rfl
      cases hnesting
    exact ⟨hnull, by rw [hnesting]; decide⟩
  · obtain ⟨r, hr, hnests⟩ := List.any_eq_true.1
      (show (Decoder.empty.push (nestedArrays 127)).1.any (nests 127) = true by decide +kernel)
    obtain ⟨v, hv, hfree, hnesting⟩ := hpayload hnests
    obtain ⟨-, -, -, herror, -⟩ := parse_render_exact hr fun w hw => by
      cases hv.symm.trans hw
      exact hfree
    exact ⟨r, hr, herror.2 ⟨v, hv, hnesting⟩⟩

end Record

end Event

end TopicStream
