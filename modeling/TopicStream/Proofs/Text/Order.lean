import Mathlib.Data.String.Basic
import TopicStream.Text.Utf8

/-!
# The order of texts

Texts are compared character by character and byte sequences byte by byte. The encoding of texts
keeps their order (`encode_lt_encode`): the greater of two characters has an encoding that is not
shorter and has the greater byte where the two first differ.
-/

namespace TopicStream.Text.Utf8

/-- The encodings of two different characters are told apart before the shorter one ends. -/
theorem encodeChar_append_lt {c d : Char} (h : c < d) (rest rest' : Bytes) :
    String.utf8EncodeChar c ++ rest < String.utf8EncodeChar d ++ rest' := by
  have hlt : c.val.toNat < d.val.toNat := h
  have hbound : d.val.toNat < 0x110000 := by
    rcases d.valid with hd | hd
    · exact Nat.lt_trans hd (by decide)
    · exact hd.2
  simp only [String.utf8EncodeChar]
  generalize c.val.toNat = m at hlt
  generalize d.val.toNat = n at hlt hbound
  -- one case for each pair of lengths, of which the greater character never has the shorter one
  split_ifs
  all_goals try omega
  -- the leading bytes of longer encodings are greater; encodings of one length hold the digits of
  -- the code points
  all_goals
    simp (disch := omega) only [List.cons_append, List.nil_append, List.cons_lt_cons_iff,
      UInt8.lt_iff_toNat_lt, ← UInt8.toNat_inj, UInt8.toNat_ofNat', Nat.mod_eq_of_lt]
    omega

/-- The encodings of two texts are in the order of the texts. -/
theorem encode_lt_encode {s t : List Char} (h : s < t) : encode s < encode t := by
  unfold encode
  -- two texts are in order if one ends or has the smaller character where they first differ
  induction h with
  | @nil d t =>
    obtain ⟨b, bytes, hd⟩ := List.exists_cons_of_ne_nil (String.utf8EncodeChar_ne_nil (c := d))
    rw [List.flatMap_nil, List.flatMap_cons, hd]
    exact .nil
  | rel hlt => exact encodeChar_append_lt hlt _ _
  | cons _ ih => exact List.append_left_lt ih

/-- A text begins with another exactly if its bytes begin with the bytes of the other. -/
theorem encode_prefix_encode_iff {s t : List Char} : encode s <+: encode t ↔ s <+: t := by
  constructor
  · intro h
    induction s generalizing t with
    | nil => exact List.nil_prefix
    | cons c s ih =>
      obtain ⟨rest, heq⟩ := h
      cases t with
      | nil => simp [encode, String.utf8EncodeChar_ne_nil] at heq
      | cons d t =>
        have hbytes : String.utf8EncodeChar c ++ (encode s ++ rest) =
            String.utf8EncodeChar d ++ encode t := by simpa [encode] using heq
        -- the encodings of two different characters would be told apart
        rcases lt_trichotomy c d with hlt | rfl | hgt
        · have hless := encodeChar_append_lt hlt (encode s ++ rest) (encode t)
          rw [hbytes] at hless
          exact absurd hless (List.lt_irrefl _)
        · rw [List.append_cancel_left_eq] at hbytes
          exact List.cons_prefix_cons.2 ⟨rfl, ih ⟨rest, hbytes⟩⟩
        · have hless := encodeChar_append_lt hgt (encode t) (encode s ++ rest)
          rw [hbytes] at hless
          exact absurd hless (List.lt_irrefl _)
  · rintro ⟨rest, rfl⟩
    exact ⟨encode rest, by simp [encode]⟩

end TopicStream.Text.Utf8
