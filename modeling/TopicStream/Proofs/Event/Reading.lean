import TopicStream.Proofs.Event.Frame
import TopicStream.Proofs.Event.Stream

/-!
# Reading a body while it arrives

A stream is a loop over three things: the items that have arrived, a decoder, and the records that
it has decoded and not handed out. What comes out of it can be said without the loop, item by item:
an error is passed on, and a chunk gives the records that it completes after the chunks before it
(`itemwise`).

## Main results

* `itemwise_eq_decodeItems`: the flat account is that of a decoder which takes the items in turn;
* `Reading.accounted`: at each moment of a reading, what has been handed out and the records that
  are ready are what the items taken so far give;
* `RecordStream.reads_itemwise`: a stream hands out the flat account of its body and then ends,
  takes nothing ahead of need, is not disturbed by errors, and makes nothing of an unfinished rest.
-/

namespace TopicStream.Event

variable {ε : Type}

/-! ### The flat account -/

/-- The chunks among the items of a body. -/
def chunks (items : List (Except ε Bytes)) : List Bytes := items.filterMap Except.toOption

/-- The errors among the items of a body. -/
def errors (items : List (Except ε Bytes)) : List (Except ε Record) :=
  items.filterMap fun
    | .error e => some (.error e)
    | .ok _ => none

/-- What an item gives after those before it: an error itself, and a chunk the records that it
completes in a decoder which has taken the chunks before it and nothing else. -/
def outcome (before : List (Except ε Bytes)) : Except ε Bytes → List (Except ε Record)
  | .error e => [.error e]
  | .ok chunk => ((Decoder.empty.pushAll (chunks before)).2.push chunk).1.map .ok

/-- What a body gives, item by item. -/
def itemwise (items : List (Except ε Bytes)) : List (Except ε Record) :=
  (items.mapIdx fun i item => outcome (items.take i) item).flatten

theorem chunks_append (items more : List (Except ε Bytes)) :
    chunks (items ++ more) = chunks items ++ chunks more :=
  List.filterMap_append

theorem chunks_error (e : ε) : chunks [Except.error e] = [] := rfl

theorem chunks_ok (chunk : Bytes) : chunks [(.ok chunk : Except ε Bytes)] = [chunk] := rfl

/-- One more item adds what it gives after the others. -/
theorem itemwise_concat (items : List (Except ε Bytes)) (item : Except ε Bytes) :
    itemwise (items ++ [item]) = itemwise items ++ outcome items item := by
  unfold itemwise
  have hbefore : (items.mapIdx fun i item' => outcome ((items ++ [item]).take i) item') =
      items.mapIdx fun i item' => outcome (items.take i) item' := by
    refine List.ext_getElem (by simp) fun i h _ => ?_
    have hi : i ≤ items.length := by
      simp only [List.length_mapIdx] at h
      omega
    rw [List.getElem_mapIdx, List.getElem_mapIdx, List.take_append_of_le_length hi]
  rw [List.mapIdx_concat, hbefore]
  simp

/-- The decoder after items is that after their chunks. -/
theorem decoderAfter_eq_pushAll (d : Decoder) (items : List (Except ε Bytes)) :
    decoderAfter d items = (d.pushAll (chunks items)).2 := by
  induction items generalizing d with
  | nil => rfl
  | cons item items ih =>
    cases item with
    | error e => exact ih d
    | ok chunk => exact ih (d.push chunk).2

/-- The flat account is that of a decoder which takes the items one after the other. -/
theorem itemwise_eq_decodeItems (items : List (Except ε Bytes)) :
    itemwise items = decodeItems .empty items := by
  induction items using List.reverseRecOn with
  | nil => rfl
  | append_singleton items item ih =>
    rw [itemwise_concat, ih, decodeItems_append, decoderAfter_eq_pushAll]
    cases item with
    | error e => rfl
    | ok chunk => simp [outcome, decodeItems]

/-- Chunks that complete no record give nothing but the errors among them. -/
theorem decodeItems_eq_errors {d : Decoder} (hd : lineFeed ∉ d.pending)
    {items : List (Except ε Bytes)} (h : (d.push (chunks items).flatten).1 = []) :
    decodeItems d items = errors items := by
  rw [← Decoder.pushAll_eq_push hd] at h
  induction items generalizing d with
  | nil => rfl
  | cons item items ih =>
    cases item with
    | error e =>
      rw [decodeItems, ih hd h]
      rfl
    | ok chunk =>
      obtain ⟨hfirst, hrest⟩ : (d.push chunk).1 = [] ∧
          ((d.push chunk).2.pushAll (chunks items)).1 = [] := List.append_eq_nil_iff.1 h
      have hkept : lineFeed ∉ (d.push chunk).2.pending := by
        rw [Decoder.push_pending]
        exact lineFeed_not_mem_cutLines _
      rw [decodeItems, hfirst, ih hkept hrest]
      rfl

namespace RecordStream

/-! ### One step of a stream -/

theorem takes_iff {s after : RecordStream ε} :
    s.advance = .takes after ↔ s.ready = [] ∧ ∃ chunk, s.input = .ok chunk :: after.input ∧
      after.decoder = (s.decoder.push chunk).2 ∧ after.ready = (s.decoder.push chunk).1 := by
  obtain ⟨input, decoder, ready⟩ := s
  obtain ⟨input', decoder', ready'⟩ := after
  cases ready with
  | cons record ready => simp [advance]
  | nil =>
    rcases input with _ | ⟨_ | chunk, input⟩
    · simp [advance]
    · simp [advance]
    · simp only [advance, Progress.takes.injEq, mk.injEq, true_and, List.cons.injEq,
        Except.ok.injEq]
      grind

theorem yields_iff {s after : RecordStream ε} {item : Except ε Record} :
    s.advance = .yields item after ↔ s.decoder = after.decoder ∧
      ((∃ record, item = .ok record ∧ s.ready = record :: after.ready ∧ s.input = after.input) ∨
        ∃ e, item = .error e ∧ s.ready = [] ∧ after.ready = [] ∧
          s.input = .error e :: after.input) := by
  obtain ⟨input, decoder, ready⟩ := s
  obtain ⟨input', decoder', ready'⟩ := after
  cases ready with
  | cons record ready =>
    simp only [advance, Progress.yields.injEq, mk.injEq]
    grind
  | nil =>
    rcases input with _ | ⟨e | chunk, input⟩
    · simp [advance]
    · simp only [advance, Progress.yields.injEq, mk.injEq]
      grind
    · simp [advance]

theorem starves_iff {s : RecordStream ε} : s.advance = .starves ↔ s.ready = [] ∧ s.input = [] := by
  obtain ⟨input, decoder, ready⟩ := s
  cases ready with
  | cons record ready => simp [advance]
  | nil => rcases input with _ | ⟨_ | chunk, input⟩ <;> simp [advance]

/-! ### Readings -/

/-- A reading of a body that arrives item by item: the number of steps of the stream, the items that
have arrived, what the stream has handed out, and the stream. -/
inductive Reading :
    Nat → List (Except ε Bytes) → List (Except ε Record) → RecordStream ε → Prop
  /-- Before anything has arrived. -/
  | fresh : Reading 0 [] [] (ofInput [])
  /-- One more item arrives. -/
  | arrive {n : Nat} {items : List (Except ε Bytes)} {given : List (Except ε Record)}
      {s : RecordStream ε} (before : Reading n items given s) (item : Except ε Bytes) :
      Reading n (items ++ [item]) given (s.arrive item)
  /-- The stream takes a chunk. -/
  | takes {n : Nat} {items : List (Except ε Bytes)} {given : List (Except ε Record)}
      {s after : RecordStream ε} (before : Reading n items given s)
      (next : s.advance = .takes after) : Reading (n + 1) items given after
  /-- The stream hands out a record or an error. -/
  | yields {n : Nat} {items : List (Except ε Bytes)} {given : List (Except ε Record)}
      {s after : RecordStream ε} {item : Except ε Record} (before : Reading n items given s)
      (next : s.advance = .yields item after) : Reading (n + 1) items (given ++ [item]) after

section Reading

variable {n : Nat} {items : List (Except ε Bytes)} {given : List (Except ε Record)}
  {s : RecordStream ε}

/-- At each moment of a reading, what has been handed out and the records that are ready are what
the items taken so far give. Each step takes a chunk or hands something out. -/
theorem Reading.accounted (h : Reading n items given s) :
    ∃ taken, items = taken ++ s.input ∧ s.decoder = (Decoder.empty.pushAll (chunks taken)).2 ∧
      given ++ s.ready.map .ok = itemwise taken ∧ n = (chunks taken).length + given.length := by
  induction h with
  | fresh => exact ⟨[], rfl, rfl, rfl, rfl⟩
  | arrive before item ih =>
    obtain ⟨taken, hitems, hdecoder, hgiven, hsteps⟩ := ih
    exact ⟨taken, by rw [hitems, List.append_assoc]; rfl, hdecoder, hgiven, hsteps⟩
  | takes before next ih =>
    obtain ⟨taken, hitems, hdecoder, hgiven, hsteps⟩ := ih
    obtain ⟨hready, chunk, hinput, hdecoder', hready'⟩ := takes_iff.1 next
    rw [hready, List.map_nil, List.append_nil] at hgiven
    -- a chunk is taken only when nothing is ready, so what it gives comes next
    refine ⟨taken ++ [.ok chunk], by simp [hitems, hinput], ?_, ?_, ?_⟩
    · rw [hdecoder', hdecoder, ← decoderAfter_eq_pushAll, ← decoderAfter_eq_pushAll,
        decoderAfter_append]
      rfl
    · rw [itemwise_concat, ← hgiven, hready', hdecoder]
      rfl
    · rw [chunks_append, chunks_ok, List.length_append, hsteps]
      simp only [List.length_singleton]
      omega
  | yields before next ih =>
    obtain ⟨taken, hitems, hdecoder, hgiven, hsteps⟩ := ih
    obtain ⟨hdecoder', ⟨record, rfl, hready, hinput⟩ | ⟨e, rfl, hready, hready', hinput⟩⟩ :=
      yields_iff.1 next
    -- a record has been ready, and an error is handed out as it is taken
    · refine ⟨taken, by rw [hitems, hinput], by rw [← hdecoder', hdecoder], ?_, ?_⟩
      · simpa [hready] using hgiven
      · simp only [hsteps, List.length_append, List.length_singleton]
        omega
    · rw [hready, List.map_nil, List.append_nil] at hgiven
      refine ⟨taken ++ [.error e], by simp [hitems, hinput], ?_, ?_, ?_⟩
      · rw [← hdecoder', hdecoder, chunks_append, chunks_error, List.append_nil]
      · rw [itemwise_concat, ← hgiven, hready']
        simp [outcome]
      · rw [chunks_append, chunks_error, List.append_nil, hsteps, List.length_append]
        simp only [List.length_singleton]
        omega

/-- A reading of a whole body can begin when all of it has arrived. -/
theorem reading_ofInput (items : List (Except ε Bytes)) : Reading 0 items [] (ofInput items) := by
  induction items using List.reverseRecOn with
  | nil => exact .fresh
  | append_singleton items item ih => exact ih.arrive item

/-- Every reading can go on until all that the stream hands out has been handed out. -/
theorem Reading.exists_end (h : Reading n items given s) :
    ∃ m after, Reading m items (given ++ s.toList) after ∧ after.advance = .starves := by
  -- as the stream goes on to hand out what it hands out
  induction s using toList.induct generalizing n given with
  | case1 s item after hnext ih =>
    obtain ⟨m, last, hlast, hstarves⟩ := ih (h.yields hnext)
    rw [toList_of_yields hnext]
    exact ⟨m, last, by simpa using hlast, hstarves⟩
  | case2 s after hnext ih =>
    obtain ⟨m, last, hlast, hstarves⟩ := ih (h.takes hnext)
    rw [toList_of_takes hnext]
    exact ⟨m, last, hlast, hstarves⟩
  | case3 s hnext =>
    rw [toList_of_starves hnext]
    exact ⟨n, s, by simpa using h, hnext⟩

/-- What holds at each moment of a reading of a body. -/
structure Punctual (n : Nat) (items : List (Except ε Bytes)) (given : List (Except ε Record))
    (s : RecordStream ε) : Prop where
  /-- The stream has taken no more steps than there are items and things to hand out. -/
  steps : n ≤ items.length + (itemwise items).length
  /-- It has handed out what comes first in the flat account. -/
  order : given <+: itemwise items
  /-- It has nothing more to do exactly if it has taken all and handed out all. -/
  ends : s.advance = .starves ↔ s.input = [] ∧ given = itemwise items
  /-- It takes no item before all that those before give has been handed out. -/
  need : ∀ after, ((∃ item, s.advance = .yields item after) ∨ s.advance = .takes after) →
    after.input ≠ s.input → ∃ taken, items = taken ++ s.input ∧ given = itemwise taken

theorem Reading.punctual (h : Reading n items given s) : Punctual n items given s := by
  obtain ⟨taken, hitems, -, hgiven, hsteps⟩ := h.accounted
  have hprefix : itemwise taken <+: itemwise items := by
    rw [hitems, itemwise_eq_decodeItems, itemwise_eq_decodeItems, decodeItems_append]
    exact List.prefix_append _ _
  constructor
  case steps =>
    have hlength := hprefix.length_le
    have hchunks : (chunks taken).length ≤ taken.length := List.length_filterMap_le _ _
    rw [← hgiven, List.length_append] at hlength
    rw [hsteps, hitems, List.length_append, ← hitems]
    omega
  case order =>
    exact (List.prefix_append given (s.ready.map .ok)).trans (hgiven ▸ hprefix)
  case ends =>
    rw [starves_iff]
    constructor
    · rintro ⟨hready, hinput⟩
      refine ⟨hinput, ?_⟩
      rw [hitems, hinput, List.append_nil, ← hgiven, hready, List.map_nil, List.append_nil]
    · rintro ⟨hinput, hall⟩
      rw [hinput, List.append_nil] at hitems
      rw [hall, hitems] at hgiven
      exact ⟨by simpa using hgiven, hinput⟩
  case need =>
    intro after hnext hinput
    -- handing out what is ready takes no item
    have hready : s.ready = [] := by
      rcases hnext with ⟨item, hnext⟩ | hnext
      · obtain ⟨-, ⟨record, -, -, hsame⟩ | ⟨e, -, hready, -⟩⟩ := yields_iff.1 hnext
        · exact absurd hsame.symm hinput
        · exact hready
      · exact (takes_iff.1 hnext).1
    rw [hready, List.map_nil, List.append_nil] at hgiven
    exact ⟨taken, hitems, hgiven⟩

end Reading

/-! ### Whole bodies -/

theorem decodeAll_eq_itemwise (items : List (Except ε Bytes)) :
    decodeAll items = itemwise items := by
  rw [itemwise_eq_decodeItems, decodeAll, toList_eq]
  rfl

/-- A stream hands out the flat account of its body, item by item, and then ends; each reading of
the body comes to this end, and none takes more steps than there are items and things to hand out,
or takes an item while there is something to hand out. An error leaves the rest of the account as it
would be without it, and what follows the last blank line gives nothing. -/
theorem reads_itemwise (items : List (Except ε Bytes)) :
    decodeAll items = itemwise items ∧
      (∃ n s, Reading n items (itemwise items) s ∧ s.advance = .starves) ∧
      (∀ n given s, Reading n items given s → Punctual n items given s) ∧
      (∀ (before after : List (Except ε Bytes)) (e : ε), items = before ++ .error e :: after →
        ∃ rest, decodeAll (before ++ after) = decodeAll before ++ rest ∧
          decodeAll items = decodeAll before ++ .error e :: rest) ∧
      ∀ before after : List (Except ε Bytes), items = before ++ after →
        (∀ line ∈ (cutLines (unfinished (chunks before).flatten ++ (chunks after).flatten)).1,
          dropReturn line ≠ []) →
        decodeAll items = decodeAll before ++ errors after := by
  refine ⟨decodeAll_eq_itemwise items, ?_, fun _ _ _ h => h.punctual, ?_, ?_⟩
  · obtain ⟨n, s, hreading, hstarves⟩ := (reading_ofInput items).exists_end
    rw [List.nil_append, ← decodeAll, decodeAll_eq_itemwise] at hreading
    exact ⟨n, s, hreading, hstarves⟩
  · rintro before after e rfl
    refine ⟨decodeItems (decoderAfter .empty before) after, ?_, ?_⟩
    all_goals
      simp only [decodeAll_eq_itemwise, itemwise_eq_decodeItems, decodeItems_append]
    rfl
  · rintro before after rfl hlines
    have hkept := Decoder.pending_of_reachable .empty
    have hpending : (decoderAfter .empty before).pending = unfinished (chunks before).flatten := by
      rw [decoderAfter_eq_pushAll, Decoder.pushAll_eq_push hkept, Decoder.push_pending,
        cutLines_snd]
      rfl
    have hnone : ((decoderAfter .empty before).push (chunks after).flatten).1 = [] :=
      Decoder.push_eq_nil_of_filled (by rwa [hpending])
    rw [decodeAll_eq_itemwise, decodeAll_eq_itemwise, itemwise_eq_decodeItems,
      itemwise_eq_decodeItems, decodeItems_append, decodeItems_eq_errors _ hnone]
    rw [hpending, ← cutLines_snd]
    exact lineFeed_not_mem_cutLines _

/-- A body that is interrupted inside a line, goes on with an empty chunk and two records, and ends
inside a third. Nothing has been taken of it at first. -/
theorem reads_itemwise_interrupted :
    let before : List (Except String Bytes) := [.ok (Text.Utf8.encode "event: a\nda".toList)]
    let after : List (Except String Bytes) :=
      [.ok [], .ok (Text.Utf8.encode "ta: 1\n\nevent: b\n\nid: 7\nev".toList), .error "closed"]
    let items := before ++ .error "reset" :: after
    decodeAll items = [.error "reset", .ok ⟨"a", none, some (.number (.integer 1))⟩,
        .ok ⟨"b", none, none⟩, .error "closed"] ∧
      (∃ rest, decodeAll (before ++ after) = decodeAll before ++ rest ∧
        decodeAll items = decodeAll before ++ .error "reset" :: rest) ∧
      decodeAll items = decodeAll (items.take 4) ++ errors (items.drop 4) ∧
      Punctual 0 items [] (ofInput items) := by
  intro before after items
  obtain ⟨hall, -, hpunctual, hundisturbed, hrest⟩ := reads_itemwise items
  refine ⟨hall.trans rfl, hundisturbed before after "reset" rfl, ?_, ?_⟩
  · exact hrest _ _ (List.take_append_drop 4 items).symm (by decide +kernel)
  · exact hpunctual 0 [] _ (reading_ofInput items)

end RecordStream

end TopicStream.Event
