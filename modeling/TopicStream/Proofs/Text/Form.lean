import Mathlib.Data.List.TakeDrop
import Mathlib.Logic.Function.Basic
import TopicStream.Proofs.Text.Utf8
import TopicStream.Text.Form

/-!
# Form encoding read back

A byte is written as itself, as a plus sign or as an escape, and each of the three is read as that
byte again (`decodeBytes_encodeByte`), so that decoding the written form of a text gives the text
(`decode_encode`). A written form holds ASCII letters, digits and six marks (`isWritten_of_mem`).
Neither the ampersands between parameters nor the equals signs in them are among these, so that
written parameters are taken apart where they have been put together (`decodePairs_encodePairs`).
-/

namespace TopicStream.Text

namespace Hex

/-- An upper-case digit is read as the number that it was written for. -/
theorem value?_upper : ∀ n, n < 16 → value? (upper n) = some n := by decide

/-- A lower-case digit is read as the number that it was written for. -/
theorem value?_lower : ∀ n, n < 16 → value? (lower n) = some n := by decide

end Hex

namespace Form

/-- Whether a character may stand in a written form: an ASCII letter or digit, or one of six
marks. -/
def isWritten (c : Char) : Bool :=
  c.isAlphanum || ['*', '-', '.', '_', '+', '%'].contains c

/-- A byte that stands for itself is a character that encodes to it, and not one of the two marks
that are read as something else. -/
theorem isPlain_ofNat :
    ∀ n, n < 256 → isPlain (.ofNat n) = true →
      String.utf8EncodeChar (Char.ofNat n) = [.ofNat n] ∧ isWritten (Char.ofNat n) = true ∧
        Char.ofNat n ≠ '%' ∧ Char.ofNat n ≠ '+' := by
  decide +kernel

theorem of_isPlain {b : UInt8} (h : isPlain b = true) :
    String.utf8EncodeChar (Char.ofNat b.toNat) = [b] ∧ isWritten (Char.ofNat b.toNat) = true ∧
      Char.ofNat b.toNat ≠ '%' ∧ Char.ofNat b.toNat ≠ '+' := by
  have hplain := isPlain_ofNat b.toNat b.toNat_lt_size
  rw [UInt8.ofNat_toNat] at hplain
  exact hplain h

theorem isWritten_upper : ∀ n, n < 16 → isWritten (Hex.upper n) = true := by decide

/-- A byte that has been written is read again, whatever follows. -/
theorem decodeBytes_encodeByte (b : UInt8) (rest : List Char) :
    decodeBytes (encodeByte b ++ rest) = b :: decodeBytes rest := by
  have hb : b.toNat < 256 := b.toNat_lt_size
  unfold encodeByte
  by_cases hplain : isPlain b = true
  · obtain ⟨hself, -, hpercent, hplus⟩ := of_isPlain hplain
    rw [if_pos hplain, List.singleton_append, decodeBytes, hself, List.singleton_append]
    · exact fun _ _ _ h _ => hpercent h
    · exact hplus
  rw [if_neg hplain]
  by_cases hspace : b = 0x20
  · rw [if_pos hspace, List.singleton_append, decodeBytes, hspace]
  · -- the two digits of an escape are the quotient and the remainder by sixteen
    rw [if_neg hspace]
    simp only [List.cons_append, List.nil_append, decodeBytes,
      Hex.value?_upper _ (show b.toNat / 16 < 16 by omega),
      Hex.value?_upper _ (show b.toNat % 16 < 16 by omega)]
    rw [show b.toNat / 16 * 16 + b.toNat % 16 = b.toNat by omega, UInt8.ofNat_toNat]

theorem decodeBytes_flatMap (bytes : Bytes) : decodeBytes (bytes.flatMap encodeByte) = bytes := by
  induction bytes with
  | nil => rfl
  | cons b bytes ih => rw [List.flatMap_cons, decodeBytes_encodeByte, ih]

/-- Decoding the written form of a text gives the text. -/
theorem decode_encode (text : List Char) : decode (encode text) = text := by
  rw [decode, encode, decodeBytes_flatMap, Utf8.decodeLossy_encode]

/-- Different texts have different written forms. -/
theorem encode_injective : Function.Injective encode :=
  Function.LeftInverse.injective decode_encode

/-- Written forms hold nothing but ASCII letters, digits and the six marks. -/
theorem isWritten_of_mem {text : List Char} {c : Char} (h : c ∈ encode text) :
    isWritten c = true := by
  obtain ⟨b, -, hc⟩ := List.mem_flatMap.1 h
  have hb : b.toNat < 256 := b.toNat_lt_size
  unfold encodeByte at hc
  split at hc
  · rename_i hplain
    rw [List.mem_singleton.1 hc]
    exact (of_isPlain hplain).2.1
  · split at hc
    · rw [List.mem_singleton.1 hc]
      decide
    · simp only [List.mem_cons, List.not_mem_nil, or_false] at hc
      rcases hc with rfl | rfl | rfl
      · decide
      · exact isWritten_upper _ (by omega)
      · exact isWritten_upper _ (by omega)

/-- A sign that is no such character is in no written form. -/
theorem not_mem_encode {c : Char} (h : isWritten c = false) (text : List Char) :
    c ∉ encode text := by
  intro hmem
  rw [isWritten_of_mem hmem] at h
  cases h

/-! ### Parameters -/

/-- The key and the value of a piece: the texts before and after its first equals sign. A piece
without one has the empty value. -/
def decodePair (piece : List Char) : String × String :=
  let (key, value) := piece.span (· != '=')
  (String.ofList (decode key), String.ofList (decode (value.drop 1)))

/-- The parameters that a written form stands for, one for each piece between ampersands. Empty
pieces stand for none. -/
def decodePairs (text : List Char) : List (String × String) :=
  ((text.splitOn '&').filter (!·.isEmpty)).map decodePair

/-- The written form of one parameter. -/
def encodePair (p : String × String) : List Char :=
  encode p.1.toList ++ '=' :: encode p.2.toList

theorem encodePairs_eq (pairs : List (String × String)) :
    encodePairs pairs = ['&'].intercalate (pairs.map encodePair) := rfl

/-- A parameter that has been written is read again. -/
theorem decodePair_encodePair (p : String × String) : decodePair (encodePair p) = p := by
  have hkey : ∀ c ∈ encode p.1.toList, (c != '=') = true := by
    intro c hc
    refine bne_iff_ne.2 fun heq => ?_
    exact not_mem_encode (by decide) _ (heq ▸ hc)
  rw [decodePair, encodePair, List.span_eq_takeWhile_dropWhile,
    List.takeWhile_append_of_pos hkey, List.dropWhile_append_of_pos hkey,
    List.takeWhile_cons_of_neg (by simp), List.dropWhile_cons_of_neg (by simp)]
  simp [decode_encode]

/-- Parameters that have been written are read again, in their order. -/
theorem decodePairs_encodePairs (pairs : List (String × String)) :
    decodePairs (encodePairs pairs) = pairs := by
  rcases eq_or_ne pairs [] with rfl | hsome
  · rfl
  -- no piece holds an ampersand, and each holds an equals sign
  have hamp : ∀ piece ∈ pairs.map encodePair, '&' ∉ piece := by
    refine List.forall_mem_map.2 fun p _ => ?_
    simp [encodePair, not_mem_encode (show isWritten '&' = false by decide)]
  have hfull : ∀ piece ∈ pairs.map encodePair, (!piece.isEmpty) = true := by
    refine List.forall_mem_map.2 fun p _ => ?_
    simp [encodePair]
  rw [decodePairs, encodePairs_eq, List.splitOn_intercalate _ hamp (by simpa using hsome),
    List.filter_eq_self.2 hfull, List.map_map]
  exact List.map_id'' decodePair_encodePair pairs

/-- Written parameters hold what written forms hold, and the two signs between these. -/
theorem of_mem_encodePairs {pairs : List (String × String)} {c : Char}
    (h : c ∈ encodePairs pairs) : isWritten c = true ∨ c = '=' ∨ c = '&' := by
  have hpair {p : String × String} (hc : c ∈ encodePair p) :
      isWritten c = true ∨ c = '=' ∨ c = '&' := by
    rcases List.mem_append.1 hc with hkey | hvalue
    · exact .inl (isWritten_of_mem hkey)
    · rcases List.mem_cons.1 hvalue with rfl | hvalue
      · exact .inr (.inl rfl)
      · exact .inl (isWritten_of_mem hvalue)
  rw [encodePairs_eq] at h
  induction pairs with
  | nil => cases h
  | cons p pairs ih =>
    cases pairs with
    | nil => exact hpair (by simpa using h)
    | cons q pairs =>
      rw [List.map_cons, List.map_cons, List.intercalate_cons_cons, List.append_assoc,
        List.mem_append, List.mem_append, List.mem_singleton] at h
      rcases h with hc | hc | hc
      · exact hpair hc
      · exact .inr (.inr hc)
      · exact ih hc

end Form

end TopicStream.Text
