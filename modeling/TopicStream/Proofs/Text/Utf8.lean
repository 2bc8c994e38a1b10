import Mathlib.Data.List.Induction
import Mathlib.Tactic.SplitIfs
import TopicStream.Text.Utf8

/-!
# Decoding what has been encoded

Lenient decoding reads the encoding of a text back as that text (`decodeLossy_encode`): the bytes of
a character lead from the boundary back to the boundary and complete that character, whatever has
been gathered before. Of bytes that encode no text something is always left, as each begins a
character or is replaced (`decodeLossy_eq_nil_iff`). Strict decoding gives a text for its encoding
and for no other bytes (`decode?_eq_some_iff`).
-/

namespace TopicStream.Text.Utf8

/-! ### Leads

What follows the first byte of a character with code point `n`. The range of the second byte is
narrower after some leads, and the second byte of every character lies in it. -/

theorem begin_one {n : Nat} (hn : n < 0x80) {b : UInt8} (hb : b.toNat = n) :
    begin b = ([some (Char.ofNat n)], .boundary) := by
  simp [begin, hb, hn]

theorem begin_two {n : Nat} (hlow : 0x80 ≤ n) (hhigh : n < 0x800) {b : UInt8}
    (hb : b.toNat = n / 64 + 0xC0) :
    begin b = ([], .inside 0 0x80 0xBF (n / 64)) := by
  simp only [begin, hb]
  rw [if_neg (by omega), if_neg (by omega), if_pos (by omega), Nat.add_sub_cancel]

theorem begin_three {n : Nat} (hlow : 0x800 ≤ n) (hhigh : n < 0x10000)
    (hvalid : n < 0xD800 ∨ 0xDFFF < n) {b : UInt8} (hb : b.toNat = n / 4096 + 0xE0) :
    ∃ low high, begin b = ([], .inside 1 low high (n / 4096)) ∧
      low ≤ n / 64 % 64 + 0x80 ∧ n / 64 % 64 + 0x80 ≤ high := by
  simp only [begin, hb]
  rw [if_neg (by omega), if_neg (by omega), if_neg (by omega)]
  split_ifs
  · -- shorter characters end below
    exact ⟨0xA0, 0xBF, by simp; omega, by omega, by omega⟩
  · -- surrogates begin above
    exact ⟨0x80, 0x9F, by simp; omega, by omega, by omega⟩
  · exact ⟨0x80, 0xBF, by simp, by omega, by omega⟩
  all_goals omega

theorem begin_four {n : Nat} (hlow : 0x10000 ≤ n) (hhigh : n < 0x110000) {b : UInt8}
    (hb : b.toNat = n / 262144 + 0xF0) :
    ∃ low high, begin b = ([], .inside 2 low high (n / 262144)) ∧
      low ≤ n / 4096 % 64 + 0x80 ∧ n / 4096 % 64 + 0x80 ≤ high := by
  simp only [begin, hb]
  rw [if_neg (by omega), if_neg (by omega), if_neg (by omega), if_neg (by omega),
    if_neg (by omega), if_neg (by omega)]
  split_ifs
  · -- shorter characters end below
    exact ⟨0x90, 0xBF, by simp; omega, by omega, by omega⟩
  · exact ⟨0x80, 0xBF, by simp, by omega, by omega⟩
  · -- the last code point is here
    exact ⟨0x80, 0x8F, by simp; omega, by omega, by omega⟩
  all_goals omega

/-! ### Characters -/

/-- The last byte of a character completes it. -/
theorem step_last {low high bits : Nat} {b : UInt8} (hlow : low ≤ b.toNat)
    (hhigh : b.toNat ≤ high) :
    step (.inside 0 low high bits) b =
      ([some (Char.ofNat (bits * 64 + (b.toNat - 0x80)))], .boundary) := by
  rw [step, if_pos ⟨hlow, hhigh⟩]

/-- An earlier byte of a character leads on. -/
theorem step_on {left low high bits : Nat} {b : UInt8} (hlow : low ≤ b.toNat)
    (hhigh : b.toNat ≤ high) :
    step (.inside (left + 1) low high bits) b =
      ([], .inside left 0x80 0xBF (bits * 64 + (b.toNat - 0x80))) := by
  rw [step, if_pos ⟨hlow, hhigh⟩]

/-- The bytes of a character lead from the boundary back to the boundary and complete it. -/
theorem foldl_advance_encodeChar (c : Char) (gathered : List (Option Char)) :
    (String.utf8EncodeChar c).foldl advance (gathered, .boundary) =
      (some c :: gathered, .boundary) := by
  have hc : Char.ofNat c.val.toNat = c := Char.ofNat_toNat c
  have hvalid : c.val.toNat < 0xD800 ∨ 0xDFFF < c.val.toNat ∧ c.val.toNat < 0x110000 := c.valid
  simp only [String.utf8EncodeChar]
  generalize c.val.toNat = n at hc hvalid
  have hbyte : ∀ k, k < 256 → (UInt8.ofNat k).toNat = k := fun k hk => by simp; omega
  -- one case for each length of an encoding
  split_ifs with h1 h2 h3
  · have hlead := begin_one (by omega) (hbyte n (by omega))
    rw [List.foldl_cons, List.foldl_nil, advance, step, hlead, hc]
    rfl
  · have hlead := begin_two (n := n) (b := .ofNat (n / 64 % 32 + 192)) (by omega) (by omega)
      (by rw [hbyte _ (by omega)]; omega)
    have hlast := hbyte (n % 64 + 128) (by omega)
    simp only [List.foldl_cons, List.foldl_nil, advance]
    rw [step, hlead, step_last (by omega) (by omega), hlast,
      show n / 64 * 64 + (n % 64 + 128 - 128) = n by omega, hc]
    rfl
  · obtain ⟨low, high, hlead, hlow, hhigh⟩ := begin_three (n := n)
      (b := .ofNat (n / 4096 % 16 + 224)) (by omega) (by omega) (by omega)
      (by rw [hbyte _ (by omega)]; omega)
    have hsecond := hbyte (n / 64 % 64 + 128) (by omega)
    have hlast := hbyte (n % 64 + 128) (by omega)
    simp only [List.foldl_cons, List.foldl_nil, advance]
    rw [step, hlead, step_on (by omega) (by omega), step_last (by omega) (by omega), hsecond,
      hlast,
      show (n / 4096 * 64 + (n / 64 % 64 + 128 - 128)) * 64 + (n % 64 + 128 - 128) = n by omega, hc]
    rfl
  · obtain ⟨low, high, hlead, hlow, hhigh⟩ := begin_four (n := n)
      (b := .ofNat (n / 262144 % 8 + 240)) (by omega) (by omega) (by rw [hbyte _ (by omega)]; omega)
    have hsecond := hbyte (n / 4096 % 64 + 128) (by omega)
    have hthird := hbyte (n / 64 % 64 + 128) (by omega)
    have hlast := hbyte (n % 64 + 128) (by omega)
    simp only [List.foldl_cons, List.foldl_nil, advance]
    rw [step, hlead, step_on (by omega) (by omega), step_on (by omega) (by omega),
      step_last (by omega) (by omega), hsecond, hthird, hlast,
      show ((n / 262144 * 64 + (n / 4096 % 64 + 128 - 128)) * 64 + (n / 64 % 64 + 128 - 128)) * 64 +
        (n % 64 + 128 - 128) = n by omega, hc]
    rfl

/-! ### Texts -/

theorem foldl_advance_encode (text : List Char) (gathered : List (Option Char)) :
    (encode text).foldl advance (gathered, .boundary) =
      ((text.map some).reverse ++ gathered, .boundary) := by
  induction text generalizing gathered with
  | nil => rfl
  | cons c text ih =>
    rw [encode, List.flatMap_cons, List.foldl_append, foldl_advance_encodeChar, ← encode, ih]
    simp

/-- Every unit of an encoded text is one of its characters. -/
theorem units_encode (text : List Char) : units (encode text) = text.map some := by
  rw [units, foldl_advance_encode]
  simp

/-- Decoding the encoding of a text gives the text. -/
theorem decodeLossy_encode (text : List Char) : decodeLossy (encode text) = text := by
  rw [decodeLossy, units_encode]
  simp [Function.comp_def]

/-- A byte at the boundary completes something or begins a character. -/
theorem begin_fst_ne_nil_or (b : UInt8) : (begin b).1 ≠ [] ∨ (begin b).2 ≠ .boundary := by
  simp only [begin]
  split_ifs <;> simp

/-- Once a byte has been taken, something is gathered or a character is under way. -/
theorem advance_ne (acc : List (Option Char) × State) (b : UInt8) :
    (advance acc b).1 ≠ [] ∨ (advance acc b).2 ≠ .boundary := by
  obtain ⟨gathered, state⟩ := acc
  rcases state with _ | ⟨left, low, high, bits⟩
  · rcases begin_fst_ne_nil_or b with h | h
    · exact .inl (by simp [advance, step, h])
    · exact .inr h
  · by_cases hb : low ≤ b.toNat ∧ b.toNat ≤ high
    · cases left with
      | zero => exact .inl (by simp [advance, step_last hb.1 hb.2])
      | succ left => exact .inr (by simp [advance, step_on hb.1 hb.2])
    · exact .inl (by simp [advance, step, hb])

/-- Nothing is left of a sequence only if it has no bytes. -/
theorem decodeLossy_eq_nil_iff {bytes : Bytes} : decodeLossy bytes = [] ↔ bytes = [] := by
  constructor
  · intro h
    rw [decodeLossy, List.map_eq_nil_iff] at h
    -- the last byte leaves something behind
    rcases List.eq_nil_or_concat bytes with hnil | ⟨before, b, rfl⟩
    · exact hnil
    · have hne := advance_ne (before.foldl advance ([], .boundary)) b
      rw [units, List.concat_eq_append, List.foldl_append, List.foldl_cons, List.foldl_nil] at h
      split at h
      · rename_i hlast
        simp_all
      · simp at h
  · rintro rfl
    rfl

/-! ### Strict decoding

While no unit is incomplete, the bytes that have been taken are the encoding of the characters
gathered, followed by the beginning of one more. -/

/-- The bytes of a character under way: with any bytes that complete it they are the encoding of a
character. -/
def Begins : (left low high bits : Nat) → Bytes → Prop
  | 0, low, high, bits, bytes => ∀ b : UInt8, low ≤ b.toNat → b.toNat ≤ high →
      String.utf8EncodeChar (Char.ofNat (bits * 64 + (b.toNat - 0x80))) = bytes ++ [b]
  | left + 1, low, high, bits, bytes => ∀ b : UInt8, low ≤ b.toNat → b.toNat ≤ high →
      Begins left 0x80 0xBF (bits * 64 + (b.toNat - 0x80)) (bytes ++ [b])

/-- The bytes of a valid code point. -/
theorem encodeChar_ofNat {n : Nat} (h : n < 0xD800 ∨ 0xDFFF < n ∧ n < 0x110000) :
    String.utf8EncodeChar (Char.ofNat n) =
      if n ≤ 0x7F then [.ofNat n]
      else if n ≤ 0x7FF then [.ofNat (n / 64 % 32 + 192), .ofNat (n % 64 + 128)]
      else if n ≤ 0xFFFF then
        [.ofNat (n / 4096 % 16 + 224), .ofNat (n / 64 % 64 + 128), .ofNat (n % 64 + 128)]
      else
        [.ofNat (n / 262144 % 8 + 240), .ofNat (n / 4096 % 64 + 128), .ofNat (n / 64 % 64 + 128),
          .ofNat (n % 64 + 128)] := by
  have hval : (Char.ofNat n).val.toNat = n := by
    rw [Char.ofNat, dif_pos h]
    rfl
  simp only [String.utf8EncodeChar, hval]

theorem ofNat_eq {n : Nat} {b : UInt8} (h : n = b.toNat) : UInt8.ofNat n = b := by
  rw [h, UInt8.ofNat_toNat]

/-- Two bytes of which the first is a lead are the encoding of a character. -/
theorem encodeChar_two {a b : UInt8} {n : Nat} (ha : a.toNat = n / 64 + 0xC0)
    (hb : b.toNat = n % 64 + 0x80) (hlow : 0x80 ≤ n) (hhigh : n < 0x800) :
    String.utf8EncodeChar (Char.ofNat n) = [a, b] := by
  rw [encodeChar_ofNat (by omega), if_neg (by omega), if_pos (by omega),
    ofNat_eq (b := a) (by omega), ofNat_eq (b := b) (by omega)]

theorem encodeChar_three {a b c : UInt8} {n : Nat} (ha : a.toNat = n / 4096 + 0xE0)
    (hb : b.toNat = n / 64 % 64 + 0x80) (hc : c.toNat = n % 64 + 0x80) (hlow : 0x800 ≤ n)
    (hhigh : n < 0x10000) (hvalid : n < 0xD800 ∨ 0xDFFF < n) :
    String.utf8EncodeChar (Char.ofNat n) = [a, b, c] := by
  rw [encodeChar_ofNat (by omega), if_neg (by omega), if_neg (by omega), if_pos (by omega),
    ofNat_eq (b := a) (by omega), ofNat_eq (b := b) (by omega), ofNat_eq (b := c) (by omega)]

theorem encodeChar_four {a b c d : UInt8} {n : Nat} (ha : a.toNat = n / 262144 + 0xF0)
    (hb : b.toNat = n / 4096 % 64 + 0x80) (hc : c.toNat = n / 64 % 64 + 0x80)
    (hd : d.toNat = n % 64 + 0x80) (hlow : 0x10000 ≤ n) (hhigh : n < 0x110000) :
    String.utf8EncodeChar (Char.ofNat n) = [a, b, c, d] := by
  rw [encodeChar_ofNat (by omega), if_neg (by omega), if_neg (by omega), if_neg (by omega),
    ofNat_eq (b := a) (by omega), ofNat_eq (b := b) (by omega), ofNat_eq (b := c) (by omega),
    ofNat_eq (b := d) (by omega)]

theorem begins_three {a : UInt8} {low high bits : Nat} (ha : a.toNat = bits + 0xE0)
    (hlow : 0x80 ≤ low) (hhigh : high ≤ 0xBF) (hlead : bits < 16)
    (hshort : bits = 0 → 0xA0 ≤ low) (hsurrogate : bits = 13 → high ≤ 0x9F) :
    Begins 1 low high bits [a] := by
  intro b hb hb' c hc hc'
  exact encodeChar_three (by omega) (by omega) (by omega) (by omega) (by omega) (by omega)

theorem begins_four {a : UInt8} {low high bits : Nat} (ha : a.toNat = bits + 0xF0)
    (hlow : 0x80 ≤ low) (hhigh : high ≤ 0xBF) (hlead : bits < 5)
    (hshort : bits = 0 → 0x90 ≤ low) (hlast : bits = 4 → high ≤ 0x8F) :
    Begins 2 low high bits [a] := by
  intro b hb hb' c hc hc' d hd hd'
  exact encodeChar_four (by omega) (by omega) (by omega) (by omega) (by omega) (by omega)

/-- What a byte at the boundary completes or begins. -/
theorem begin_cases (b : UInt8) :
    (begin b).1 = [none] ∨
      (∃ c, begin b = ([some c], .boundary) ∧ String.utf8EncodeChar c = [b]) ∨
      ∃ left low high bits, begin b = ([], .inside left low high bits) ∧
        Begins left low high bits [b] := by
  generalize hbegin : begin b = result
  simp only [begin] at hbegin
  -- one case for each range of first bytes; the narrow ranges after some of them keep out what could
  -- be written shorter, the surrogates and what lies beyond the last code point
  split_ifs at hbegin
  all_goals subst hbegin
  · refine .inr (.inl ⟨_, rfl, ?_⟩)
    rw [encodeChar_ofNat (by omega), if_pos (by omega), ofNat_eq rfl]
  · exact .inl rfl
  · refine .inr (.inr ⟨_, _, _, _, rfl, fun b' hlow hhigh => ?_⟩)
    exact encodeChar_two (by omega) (by omega) (by omega) (by omega)
  · exact .inr (.inr ⟨_, _, _, _, rfl,
      begins_three (by omega) (by omega) (by omega) (by omega) (by omega) (by omega)⟩)
  · exact .inr (.inr ⟨_, _, _, _, rfl,
      begins_three (by omega) (by omega) (by omega) (by omega) (by omega) (by omega)⟩)
  · exact .inr (.inr ⟨_, _, _, _, rfl,
      begins_three (by omega) (by omega) (by omega) (by omega) (by omega) (by omega)⟩)
  · exact .inr (.inr ⟨_, _, _, _, rfl,
      begins_four (by omega) (by omega) (by omega) (by omega) (by omega) (by omega)⟩)
  · exact .inr (.inr ⟨_, _, _, _, rfl,
      begins_four (by omega) (by omega) (by omega) (by omega) (by omega) (by omega)⟩)
  · exact .inr (.inr ⟨_, _, _, _, rfl,
      begins_four (by omega) (by omega) (by omega) (by omega) (by omega) (by omega)⟩)
  · exact .inl rfl

/-- What stands before a state since the last character boundary. -/
def State.After : State → Bytes → Prop
  | .boundary, bytes => bytes = []
  | .inside left low high bits, bytes => Begins left low high bits bytes

/-- A byte that leaves no unit incomplete completes a character or belongs to one under way. -/
theorem after_step {state : State} {before : Bytes} (h : state.After before) (b : UInt8)
    (hall : none ∉ (step state b).1) :
    (∃ c, step state b = ([some c], .boundary) ∧ before ++ [b] = String.utf8EncodeChar c) ∨
      (step state b).1 = [] ∧ (step state b).2.After (before ++ [b]) := by
  cases state with
  | boundary =>
    obtain rfl : before = [] := h
    rw [step] at hall ⊢
    rcases begin_cases b with hnone | ⟨c, hbegin, hc⟩ | ⟨left, low, high, bits, hbegin, hunder⟩
    · simp [hnone] at hall
    · exact .inl ⟨c, hbegin, hc.symm⟩
    · exact .inr (by rw [hbegin]; exact ⟨rfl, hunder⟩)
  | inside left low high bits =>
    by_cases hb : low ≤ b.toNat ∧ b.toNat ≤ high
    · cases left with
      | zero => exact .inl ⟨_, step_last hb.1 hb.2, (h b hb.1 hb.2).symm⟩
      | succ left => exact .inr (by rw [step_on hb.1 hb.2]; exact ⟨rfl, h b hb.1 hb.2⟩)
    · simp [step, hb] at hall

/-- As long as no unit is incomplete, what has been taken is the encoding of the characters gathered
and the beginning of one more. -/
theorem foldl_advance_eq (bytes : Bytes) {gathered : List (Option Char)} {state : State}
    (hfold : bytes.foldl advance ([], .boundary) = (gathered, state)) (hall : none ∉ gathered) :
    ∃ text before, gathered = (text.map some).reverse ∧ bytes = encode text ++ before ∧
      state.After before := by
  induction bytes using List.reverseRecOn generalizing gathered state with
  | nil =>
    cases hfold
    exact ⟨[], [], rfl, rfl, rfl⟩
  | append_singleton bytes b ih =>
    rw [List.foldl_append, List.foldl_cons, List.foldl_nil] at hfold
    generalize hbefore : bytes.foldl advance ([], .boundary) = acc at hfold
    obtain ⟨old, state₁⟩ := acc
    rw [advance, Prod.mk.injEq] at hfold
    obtain ⟨rfl, rfl⟩ := hfold
    simp only [List.mem_append, List.mem_reverse, not_or] at hall
    obtain ⟨text, before, rfl, rfl, hafter⟩ := ih hbefore hall.2
    rcases after_step hafter b hall.1 with ⟨c, hstep, hc⟩ | ⟨hnothing, hon⟩
    · refine ⟨text ++ [c], [], by rw [hstep]; simp, ?_, by rw [hstep]; rfl⟩
      rw [List.append_assoc, hc]
      simp [encode]
    · exact ⟨text, before ++ [b], by rw [hnothing]; rfl, List.append_assoc .., hon⟩

/-- A list of units is a text if all of them are characters. -/
theorem mapM_id_eq_some_iff {units : List (Option Char)} {text : List Char} :
    units.mapM id = some text ↔ units = text.map some := by
  induction units generalizing text with
  | nil => cases text <;> simp
  | cons unit units ih =>
    simp only [List.mapM_cons, Option.bind_eq_bind, Option.bind_eq_some_iff, ih, id_eq]
    cases text with
    | nil => simp
    | cons c text => simp [and_comm]

/-- Strict decoding gives a text exactly for the encoding of that text. -/
theorem decode?_eq_some_iff {bytes : Bytes} {text : List Char} :
    decode? bytes = some text ↔ bytes = encode text := by
  rw [decode?, mapM_id_eq_some_iff]
  constructor
  · intro hunits
    generalize hfold : bytes.foldl advance ([], .boundary) = acc at *
    obtain ⟨gathered, state⟩ := acc
    cases state with
    | boundary =>
      have hgathered : gathered.reverse = text.map some := by
        rw [← hunits, units, hfold]
      obtain rfl := List.reverse_eq_iff.1 hgathered
      obtain ⟨text', before, htext, rfl, rfl⟩ := foldl_advance_eq bytes hfold (by simp)
      simp only [List.reverse_inj] at htext
      obtain rfl := (List.map_inj_right fun _ _ => Option.some.inj).1 htext
      rw [List.append_nil]
    | inside left low high bits =>
      have hincomplete : none ∈ text.map some := by
        rw [← hunits, units, hfold]
        simp
      simp at hincomplete
  · rintro rfl
    exact units_encode text

end TopicStream.Text.Utf8
