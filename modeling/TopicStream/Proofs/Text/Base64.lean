import TopicStream.Text.Base64

/-!
# Base64 is read strictly

Every byte sequence has exactly one written form: a text is read as a byte sequence exactly if it
is the written form of that sequence (`decode?_eq_some_iff`). Written forms hold nothing but the
sixty-four characters of the alphabet (`isSome_value?_of_mem`).
-/

namespace TopicStream.Text.Base64

/-! ### The alphabet -/

theorem value?_symbol : ∀ n, n < 64 → value? (symbol n) = some n := by decide

/-- A character of the alphabet is the symbol of the number that it stands for. -/
theorem symbol_of_value? {c : Char} {n : Nat} (h : value? c = some n) :
    n < 64 ∧ symbol n = c := by
  -- each range of code points is laid onto a range of numbers
  have hrange : ∀ m, m = c.toNat → Char.ofNat m = c := fun m hm => by
    rw [hm, Char.ofNat_toNat]
  simp only [value?] at h
  split at h
  · obtain rfl := Option.some.inj h
    exact ⟨by omega, by rw [symbol, if_pos (by omega), hrange _ (by omega)]⟩
  split at h
  · obtain rfl := Option.some.inj h
    exact ⟨by omega, by rw [symbol, if_neg (by omega), if_pos (by omega), hrange _ (by omega)]⟩
  split at h
  · obtain rfl := Option.some.inj h
    exact ⟨by omega, by
      rw [symbol, if_neg (by omega), if_neg (by omega), if_pos (by omega), hrange _ (by omega)]⟩
  split at h
  · rename_i heq
    obtain rfl := Option.some.inj h
    exact ⟨by decide, heq.symm⟩
  split at h
  · rename_i heq
    obtain rfl := Option.some.inj h
    exact ⟨by decide, heq.symm⟩
  · cases h

/-! ### Groups of three bytes

The numbers of the four characters of a group are cut from the bits of its bytes, and the bytes are
put together from the numbers again. -/

section Group

variable (a b c : UInt8)

theorem first_of_group :
    UInt8.ofNat (a.toNat / 4 * 4 + (a.toNat % 4 * 16 + b.toNat / 16) / 16) = a := by
  have hb : b.toNat < 256 := b.toNat_lt_size
  rw [show a.toNat / 4 * 4 + (a.toNat % 4 * 16 + b.toNat / 16) / 16 = a.toNat by omega,
    UInt8.ofNat_toNat]

theorem second_of_group :
    UInt8.ofNat ((a.toNat % 4 * 16 + b.toNat / 16) % 16 * 16 +
      (b.toNat % 16 * 4 + c.toNat / 64) / 4) = b := by
  have hb : b.toNat < 256 := b.toNat_lt_size
  have hc : c.toNat < 256 := c.toNat_lt_size
  rw [show (a.toNat % 4 * 16 + b.toNat / 16) % 16 * 16 + (b.toNat % 16 * 4 + c.toNat / 64) / 4 =
    b.toNat by omega, UInt8.ofNat_toNat]

theorem third_of_group :
    UInt8.ofNat ((b.toNat % 16 * 4 + c.toNat / 64) % 4 * 64 + c.toNat % 64) = c := by
  have hc : c.toNat < 256 := c.toNat_lt_size
  rw [show (b.toNat % 16 * 4 + c.toNat / 64) % 4 * 64 + c.toNat % 64 = c.toNat by omega,
    UInt8.ofNat_toNat]

theorem value?_of_group :
    value? (symbol (a.toNat / 4)) = some (a.toNat / 4) ∧
      value? (symbol (a.toNat % 4 * 16 + b.toNat / 16)) =
        some (a.toNat % 4 * 16 + b.toNat / 16) ∧
      value? (symbol (b.toNat % 16 * 4 + c.toNat / 64)) =
        some (b.toNat % 16 * 4 + c.toNat / 64) ∧
      value? (symbol (c.toNat % 64)) = some (c.toNat % 64) := by
  have ha : a.toNat < 256 := a.toNat_lt_size
  have hb : b.toNat < 256 := b.toNat_lt_size
  have hc : c.toNat < 256 := c.toNat_lt_size
  exact ⟨value?_symbol _ (by omega), value?_symbol _ (by omega), value?_symbol _ (by omega),
    value?_symbol _ (by omega)⟩

end Group

/-! ### Whole texts -/

/-- The written form of a byte sequence is read as that sequence. -/
theorem decode?_encode (bytes : Bytes) : decode? (encode bytes) = some bytes := by
  -- the bytes that are missing from the last group count as zero
  have hzero : (0 : UInt8).toNat = 0 := rfl
  fun_induction encode bytes with
  | case1 => rfl
  | case2 a =>
    obtain ⟨hx, hy, -, -⟩ := value?_of_group a 0 0
    have hfirst := first_of_group a 0
    simp only [hzero, Nat.zero_div, Nat.add_zero] at hy hfirst
    simp only [decode?, hx, hy, Option.bind_eq_bind, Option.bind_some]
    rw [if_pos (by omega), hfirst]
  | case3 a b =>
    obtain ⟨hx, hy, hz, -⟩ := value?_of_group a b 0
    have hsecond := second_of_group a b 0
    simp only [hzero, Nat.zero_div, Nat.add_zero] at hz hsecond
    simp only [decode?, hx, hy, hz, Option.bind_eq_bind, Option.bind_some]
    rw [if_pos (by omega), first_of_group, hsecond]
  | case4 a b c rest ih =>
    obtain ⟨hx, hy, hz, hw⟩ := value?_of_group a b c
    simp only [decode?, hx, hy, hz, hw, ih, Option.bind_eq_bind, Option.bind_some]
    rw [first_of_group, second_of_group, third_of_group]

/-- A text that is read is the written form of what it is read as. -/
theorem eq_encode_of_decode? {text : List Char} {bytes : Bytes} (h : decode? text = some bytes) :
    text = encode bytes := by
  have hbyte : ∀ n, n < 256 → (UInt8.ofNat n).toNat = n := fun n hn => by simp; omega
  -- in each group the bytes are cut into the values of the symbols that they were put together from
  fun_induction decode? text generalizing bytes with
  | case1 =>
    obtain rfl := Option.some.inj h
    rfl
  | case2 => cases h
  | case3 a b =>
    simp only [Option.bind_eq_bind, Option.bind_eq_some_iff] at h
    obtain ⟨x, hx, y, hy, h⟩ := h
    obtain ⟨hxlt, rfl⟩ := symbol_of_value? hx
    obtain ⟨hylt, rfl⟩ := symbol_of_value? hy
    split at h
    · obtain rfl := Option.some.inj h
      rw [encode, hbyte _ (by omega), show (x * 4 + y / 16) / 4 = x by omega,
        show (x * 4 + y / 16) % 4 * 16 = y by omega]
    · cases h
  | case4 a b c =>
    simp only [Option.bind_eq_bind, Option.bind_eq_some_iff] at h
    obtain ⟨x, hx, y, hy, z, hz, h⟩ := h
    obtain ⟨hxlt, rfl⟩ := symbol_of_value? hx
    obtain ⟨hylt, rfl⟩ := symbol_of_value? hy
    obtain ⟨hzlt, rfl⟩ := symbol_of_value? hz
    split at h
    · obtain rfl := Option.some.inj h
      rw [encode, hbyte _ (by omega), hbyte _ (by omega), show (x * 4 + y / 16) / 4 = x by omega,
        show (x * 4 + y / 16) % 4 * 16 + (y % 16 * 16 + z / 4) / 16 = y by omega,
        show (y % 16 * 16 + z / 4) % 16 * 4 = z by omega]
    · cases h
  | case5 a b c d rest ih =>
    simp only [Option.bind_eq_bind, Option.bind_eq_some_iff] at h
    obtain ⟨x, hx, y, hy, z, hz, w, hw, tail, htail, h⟩ := h
    obtain ⟨hxlt, rfl⟩ := symbol_of_value? hx
    obtain ⟨hylt, rfl⟩ := symbol_of_value? hy
    obtain ⟨hzlt, rfl⟩ := symbol_of_value? hz
    obtain ⟨hwlt, rfl⟩ := symbol_of_value? hw
    obtain rfl := Option.some.inj h
    rw [encode, hbyte _ (by omega), hbyte _ (by omega), hbyte _ (by omega), ← ih htail,
      show (x * 4 + y / 16) / 4 = x by omega,
      show (x * 4 + y / 16) % 4 * 16 + (y % 16 * 16 + z / 4) / 16 = y by omega,
      show (y % 16 * 16 + z / 4) % 16 * 4 + (z % 4 * 64 + w) / 64 = z by omega,
      show (z % 4 * 64 + w) % 64 = w by omega]

/-- A text is read as a byte sequence exactly if it is the written form of that sequence. -/
theorem decode?_eq_some_iff {text : List Char} {bytes : Bytes} :
    decode? text = some bytes ↔ text = encode bytes :=
  ⟨eq_encode_of_decode?, fun h => h ▸ decode?_encode bytes⟩

/-- Written forms hold nothing but characters of the alphabet. -/
theorem isSome_value?_of_mem {bytes : Bytes} {c : Char} (h : c ∈ encode bytes) :
    (value? c).isSome = true := by
  have hsymbol : ∀ n, n < 64 → (value? (symbol n)).isSome = true := by decide
  have hbyte : ∀ b : UInt8, b.toNat < 256 := fun b => b.toNat_lt_size
  fun_induction encode bytes with
  | case1 => cases h
  | case2 a =>
    have ha := hbyte a
    simp only [List.mem_cons, List.not_mem_nil, or_false] at h
    rcases h with rfl | rfl
    all_goals exact hsymbol _ (by omega)
  | case3 a b =>
    have ha := hbyte a
    have hb := hbyte b
    simp only [List.mem_cons, List.not_mem_nil, or_false] at h
    rcases h with rfl | rfl | rfl
    all_goals exact hsymbol _ (by omega)
  | case4 a b c rest ih =>
    have ha := hbyte a
    have hb := hbyte b
    have hc := hbyte c
    simp only [List.mem_cons] at h
    rcases h with rfl | rfl | rfl | rfl | h
    · exact hsymbol _ (by omega)
    · exact hsymbol _ (by omega)
    · exact hsymbol _ (by omega)
    · exact hsymbol _ (by omega)
    · exact ih h

end TopicStream.Text.Base64
