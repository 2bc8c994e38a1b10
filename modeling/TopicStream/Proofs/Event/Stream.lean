import TopicStream.Event.Stream

/-!
# Streams item by item

What a stream hands out is what its decoder makes of the items of its input, one after the other
(`RecordStream.toList_eq`). An item that arrives later only adds what the decoder then makes of it
(`RecordStream.toList_arrive`), so a stream that is read while its body arrives hands out what the
whole body decodes to (`RecordStream.Follows`).
-/

namespace TopicStream.Event

variable {ε : Type}

/-- What a decoder makes of items, one after the other. Errors are passed on. -/
def decodeItems (d : Decoder) : List (Except ε Bytes) → List (Except ε Record)
  | [] => []
  | .error e :: items => .error e :: decodeItems d items
  | .ok chunk :: items => (d.push chunk).1.map .ok ++ decodeItems (d.push chunk).2 items

/-- The decoder after items. Errors leave it as it is. -/
def decoderAfter (d : Decoder) : List (Except ε Bytes) → Decoder
  | [] => d
  | .error _ :: items => decoderAfter d items
  | .ok chunk :: items => decoderAfter (d.push chunk).2 items

theorem decodeItems_append (d : Decoder) (items more : List (Except ε Bytes)) :
    decodeItems d (items ++ more) =
      decodeItems d items ++ decodeItems (decoderAfter d items) more := by
  induction items generalizing d with
  | nil => rfl
  | cons item items ih =>
    cases item with
    | error e => rw [List.cons_append, decodeItems, decodeItems, decoderAfter, ih, List.cons_append]
    | ok chunk =>
      rw [List.cons_append, decodeItems, decodeItems, decoderAfter, ih, List.append_assoc]

theorem decoderAfter_append (d : Decoder) (items more : List (Except ε Bytes)) :
    decoderAfter d (items ++ more) = decoderAfter (decoderAfter d items) more := by
  induction items generalizing d with
  | nil => rfl
  | cons item items ih =>
    cases item with
    | error e => rw [List.cons_append, decoderAfter, decoderAfter, ih]
    | ok chunk => rw [List.cons_append, decoderAfter, decoderAfter, ih]

namespace RecordStream

/-- The decoder of a stream after all that has arrived. -/
def finalDecoder (s : RecordStream ε) : Decoder := decoderAfter s.decoder s.input

/-! ### One step of a stream -/

/-- What a stream yields comes first in what it hands out. -/
theorem toList_of_yields {s after : RecordStream ε} {item : Except ε Record}
    (h : s.advance = .yields item after) : s.toList = item :: after.toList := by
  rw [toList]
  split
  · rename_i hnext
    cases h.symm.trans hnext
    rfl
  · rename_i hnext
    cases h.symm.trans hnext
  · rename_i hnext
    cases h.symm.trans hnext

theorem toList_of_takes {s after : RecordStream ε} (h : s.advance = .takes after) :
    s.toList = after.toList := by
  rw [toList]
  split
  · rename_i hnext
    cases h.symm.trans hnext
  · rename_i hnext
    cases h.symm.trans hnext
    rfl
  · rename_i hnext
    cases h.symm.trans hnext

theorem toList_of_starves {s : RecordStream ε} (h : s.advance = .starves) : s.toList = [] := by
  rw [toList]
  split
  · rename_i hnext
    cases h.symm.trans hnext
  · rename_i hnext
    cases h.symm.trans hnext
  · rfl

/-- What a stream yields or takes does not change the decoder after all that has arrived. -/
theorem finalDecoder_of_advance {s after : RecordStream ε}
    (h : (∃ item, s.advance = .yields item after) ∨ s.advance = .takes after) :
    after.finalDecoder = s.finalDecoder := by
  unfold advance at h
  unfold finalDecoder
  split at h
  · rcases h with ⟨item, h⟩ | h
    · cases h
      rfl
    · cases h
  · rename_i hinput
    rcases h with ⟨item, h⟩ | h
    · cases h
      rw [hinput, decoderAfter]
    · cases h
  · rename_i hinput
    rcases h with ⟨item, h⟩ | h
    · cases h
    · cases h
      rw [hinput, decoderAfter]
      rfl
  · rcases h with ⟨item, h⟩ | h <;> cases h

/-! ### All that a stream hands out -/

/-- A stream hands out the records that are ready and then what its decoder makes of the items of
its input. -/
theorem toList_eq (s : RecordStream ε) :
    s.toList = s.ready.map .ok ++ decodeItems s.decoder s.input := by
  -- as a stream advances: on the input, and for each of its items on the records that are ready
  obtain ⟨input, decoder, ready⟩ := s
  induction input generalizing decoder ready with
  | nil =>
    induction ready with
    | nil => exact toList_of_starves rfl
    | cons record ready ih => rw [toList_of_yields rfl, ih, List.map_cons, List.cons_append]
  | cons item input ih =>
    induction ready with
    | nil =>
      cases item with
      | error e =>
        rw [toList_of_yields rfl, ih]
        rfl
      | ok chunk =>
        rw [toList_of_takes rfl, ih]
        rfl
    | cons record ready ih => rw [toList_of_yields rfl, ih, List.map_cons, List.cons_append]

/-- An item that arrives adds what the decoder then makes of it. -/
theorem toList_arrive (s : RecordStream ε) (item : Except ε Bytes) :
    (s.arrive item).toList = s.toList ++ decodeItems s.finalDecoder [item] := by
  rw [toList_eq, toList_eq, List.append_assoc]
  exact congrArg _ (decodeItems_append s.decoder s.input [item])

/-! ### Reading while a body arrives -/

/-- Of a body of which the given items have arrived, a stream has handed out the given records and
nothing else. -/
structure Follows (s : RecordStream ε) (items : List (Except ε Bytes)) (records : List Record) :
    Prop where
  /-- The body decodes to the records handed out and to those that the stream still hands out. -/
  decoded : decodeAll items = records.map .ok ++ s.toList
  /-- Its decoder is the one after the body. -/
  decoder : s.finalDecoder = decoderAfter .empty items

theorem follows_fresh : Follows (ofInput [] : RecordStream ε) [] [] := ⟨rfl, rfl⟩

section Follows

variable {s after : RecordStream ε} {items : List (Except ε Bytes)} {records : List Record}

theorem Follows.arrive (h : s.Follows items records) (item : Except ε Bytes) :
    (s.arrive item).Follows (items ++ [item]) records where
  decoded := by
    have harrive : decodeAll (items ++ [item]) =
        decodeAll items ++ decodeItems (decoderAfter .empty items) [item] :=
      toList_arrive (ofInput items) item
    rw [harrive, h.decoded, toList_arrive, h.decoder, List.append_assoc]
  decoder := by
    have harrive : (s.arrive item).finalDecoder = decoderAfter s.finalDecoder [item] :=
      decoderAfter_append s.decoder s.input [item]
    rw [harrive, h.decoder, decoderAfter_append]

theorem Follows.yields (h : s.Follows items records) {record : Record}
    (hnext : s.advance = .yields (.ok record) after) :
    after.Follows items (records ++ [record]) where
  decoded := by
    rw [h.decoded, toList_of_yields hnext, List.map_append, List.append_assoc]
    rfl
  decoder := (finalDecoder_of_advance (.inl ⟨_, hnext⟩)).trans h.decoder

theorem Follows.takes (h : s.Follows items records) (hnext : s.advance = .takes after) :
    after.Follows items records where
  decoded := by
    rw [h.decoded, toList_of_takes hnext]
  decoder := (finalDecoder_of_advance (.inr hnext)).trans h.decoder

end Follows

end RecordStream

end TopicStream.Event
