import TopicStream.Proofs.Json.Quote

/-!
# Compact texts are unambiguous

The text of a value without floats determines the value, even if more text follows: what a value is
shows in its first character, strings and containers say where they end, and a number ends before
the first character that is no digit.

## Main results

* `text_append_inj`: a text begins with the text of at most one value that is not followed by a
  digit;
* `text_inj`: different values have different texts.
-/

namespace TopicStream

namespace Number

/-- A text begins with the digits of at most one number that no further digit follows. -/
theorem toDigits_append_inj {m n : Nat} {rest rest' : List Char}
    (hrest : Json.startsWithDigit rest = false) (hrest' : Json.startsWithDigit rest' = false)
    (h : Nat.toDigits 10 m ++ rest = Nat.toDigits 10 n ++ rest') : m = n ∧ rest = rest' := by
  have hdigits : ∀ n, ∀ c ∈ Nat.toDigits 10 n, c.isDigit = true := fun n c hc =>
    Nat.isDigit_of_mem_toDigits (by decide) (by decide) hc
  have hstop : ∀ rest, Json.startsWithDigit rest = false → rest.takeWhile Char.isDigit = [] := by
    intro rest hrest
    cases rest with
    | nil => rfl
    | cons c rest =>
      rw [Json.startsWithDigit] at hrest
      simp [hrest]
  -- the digits are what comes before the first character that is none
  have htake := congrArg (List.takeWhile Char.isDigit) h
  rw [List.takeWhile_append_of_pos (hdigits m), List.takeWhile_append_of_pos (hdigits n),
    hstop _ hrest, hstop _ hrest', List.append_nil, List.append_nil] at htake
  obtain rfl : m = n := by
    rw [← Nat.ofDigitChars_ten_toDigits (n := m), htake, Nat.ofDigitChars_ten_toDigits]
  exact ⟨rfl, List.append_cancel_left h⟩

theorem exists_toDigits_eq_cons (n : Nat) :
    ∃ c digits, Nat.toDigits 10 n = c :: digits ∧ c.isDigit = true := by
  obtain ⟨c, digits, heq⟩ := List.exists_cons_of_ne_nil (Nat.toDigits_ne_nil (n := n) (b := 10))
  have hc : c ∈ Nat.toDigits 10 n := heq ▸ List.mem_cons_self
  exact ⟨c, digits, heq, Nat.isDigit_of_mem_toDigits (by decide) (by decide) hc⟩

/-- The text of an integer begins with a digit or a sign. -/
theorem exists_integerText_eq_cons (i : Int) :
    ∃ c text, integerText i = c :: text ∧ (c = '-' ∨ c.isDigit = true) := by
  unfold integerText
  split
  · exact ⟨_, _, rfl, .inl rfl⟩
  · obtain ⟨c, digits, heq, hc⟩ := exists_toDigits_eq_cons i.natAbs
    exact ⟨c, digits, heq, .inr hc⟩

/-- A text begins with at most one integer that no further digit follows. -/
theorem integerText_append_inj {i j : Int} {rest rest' : List Char}
    (hrest : Json.startsWithDigit rest = false) (hrest' : Json.startsWithDigit rest' = false)
    (h : integerText i ++ rest = integerText j ++ rest') : i = j ∧ rest = rest' := by
  have hsign : ∀ n, ∀ text : List Char, Nat.toDigits 10 n ++ rest ≠ '-' :: text ∧
      Nat.toDigits 10 n ++ rest' ≠ '-' :: text := by
    intro n text
    obtain ⟨c, digits, heq, hc⟩ := exists_toDigits_eq_cons n
    rw [heq]
    constructor
    all_goals
      rintro hcons
      obtain rfl : c = '-' := (List.cons.inj hcons).1
      exact absurd hc (by decide)
  unfold integerText at h
  split at h <;> split at h
  · rename_i hi hj
    obtain ⟨habs, hrest⟩ := toDigits_append_inj hrest hrest' (List.cons.inj h).2
    exact ⟨by omega, hrest⟩
  · exact absurd h.symm (hsign _ _).2
  · exact absurd h (hsign _ _).1
  · rename_i hi hj
    obtain ⟨habs, hrest⟩ := toDigits_append_inj hrest hrest' h
    exact ⟨by omega, hrest⟩

end Number

namespace Json

mutual

/-- Whether a value holds no float. -/
def isFloatFree : Json → Bool
  | .number (.float _) => false
  | .array items => itemsFloatFree items
  | .object members => membersFloatFree members
  | _ => true

/-- Whether no item holds a float. -/
def itemsFloatFree : List Json → Bool
  | [] => true
  | v :: rest => isFloatFree v && itemsFloatFree rest

/-- Whether no member holds a float. -/
def membersFloatFree : List (String × Json) → Bool
  | [] => true
  | (_, v) :: rest => isFloatFree v && membersFloatFree rest

end

theorem itemsFloatFree_iff {items : List Json} :
    itemsFloatFree items = true ↔ ∀ v ∈ items, v.isFloatFree = true := by
  induction items with
  | nil => simp [itemsFloatFree]
  | cons v items ih => simp [itemsFloatFree, ih]

theorem membersFloatFree_iff {members : List (String × Json)} :
    membersFloatFree members = true ↔ ∀ m ∈ members, m.2.isFloatFree = true := by
  induction members with
  | nil => simp [membersFloatFree]
  | cons m members ih => simp [membersFloatFree, ih]

/-! ### First characters -/

/-- The kind of a value, as the first character of its text tells it. -/
inductive Kind where
  /-- The null value. -/
  | null
  /-- The boolean `true`. -/
  | yes
  /-- The boolean `false`. -/
  | no
  /-- A number. -/
  | number
  /-- A string. -/
  | string
  /-- An array. -/
  | array
  /-- An object. -/
  | object
  deriving DecidableEq

/-- The kind of a value. -/
def kind : Json → Kind
  | .null => .null
  | .bool true => .yes
  | .bool false => .no
  | .number _ => .number
  | .string _ => .string
  | .array _ => .array
  | .object _ => .object

/-- The kind of the values whose texts begin with a character. -/
def kindOf? (c : Char) : Option Kind :=
  if c = 'n' then some .null
  else if c = 't' then some .yes
  else if c = 'f' then some .no
  else if c = '"' then some .string
  else if c = '[' then some .array
  else if c = '\x7b' then some .object
  else if c = '-' ∨ c.isDigit then some .number
  else none

/-- No other value begins with a sign or a digit. -/
theorem kindOf?_of_number {c : Char} (hc : c = '-' ∨ c.isDigit = true) :
    kindOf? c = some .number := by
  have hother : ∀ d, d ≠ '-' → d.isDigit = false → c ≠ d := by
    rintro d hsign hdigit rfl
    rcases hc with rfl | hc
    · exact hsign rfl
    · rw [hc] at hdigit
      cases hdigit
  simp [kindOf?, hother 'n' (by decide) (by decide), hother 't' (by decide) (by decide),
    hother 'f' (by decide) (by decide), hother '"' (by decide) (by decide),
    hother '[' (by decide) (by decide), hother '\x7b' (by decide) (by decide), hc]

/-- The text of a value begins with a character that tells its kind. -/
theorem exists_text_eq_cons {v : Json} (hv : v.isFloatFree = true) :
    ∃ c text, v.text = c :: text ∧ kindOf? c = some v.kind := by
  cases v with
  | null => exact ⟨_, _, rfl, rfl⟩
  | bool b => cases b <;> exact ⟨_, _, rfl, rfl⟩
  | number n =>
    cases n with
    | float x => simp [isFloatFree] at hv
    | integer i =>
      obtain ⟨c, text, heq, hc⟩ := Number.exists_integerText_eq_cons i
      exact ⟨c, text, by rw [Json.text, Number.text, heq], kindOf?_of_number hc⟩
  | string s => exact ⟨_, _, rfl, rfl⟩
  | array items => cases items <;> exact ⟨_, _, rfl, rfl⟩
  | object members =>
    cases members with
    | nil => exact ⟨_, _, rfl, rfl⟩
    | cons m members => exact ⟨_, _, rfl, rfl⟩

theorem kind_eq {v w : Json} (hv : v.isFloatFree = true) (hw : w.isFloatFree = true)
    {rest rest' : List Char} (h : v.text ++ rest = w.text ++ rest') : v.kind = w.kind := by
  obtain ⟨c, text, htext, hkind⟩ := exists_text_eq_cons hv
  obtain ⟨c', text', htext', hkind'⟩ := exists_text_eq_cons hw
  rw [htext, htext'] at h
  obtain rfl : c = c' := (List.cons.inj h).1
  exact Option.some.inj (hkind.symm.trans hkind')

/-- No value has a text that begins as no text of a value does. -/
theorem text_append_ne_cons {v : Json} (hv : v.isFloatFree = true) {c : Char}
    (hc : kindOf? c = none) (rest text : List Char) : v.text ++ rest ≠ c :: text := by
  obtain ⟨c', text', htext, hkind⟩ := exists_text_eq_cons hv
  rw [htext]
  rintro h
  obtain rfl : c' = c := (List.cons.inj h).1
  rw [hc] at hkind
  cases hkind

/-! ### Whole texts -/

theorem startsWithDigit_itemsText (items : List Json) (rest : List Char) :
    startsWithDigit (itemsText items ++ rest) = false := by
  cases items <;> rfl

theorem startsWithDigit_membersText (members : List (String × Json)) (rest : List Char) :
    startsWithDigit (membersText members ++ rest) = false := by
  rcases members with _ | ⟨⟨k, v⟩, members⟩ <;> rfl

/-- The texts of two arrays agree if those of their items, each after a comma, do. -/
theorem array_append_inj {items items' : List Json} (h : itemsFloatFree items = true)
    (h' : itemsFloatFree items' = true) {rest rest' : List Char}
    (heq : (Json.array items).text ++ rest = (Json.array items').text ++ rest') :
    itemsText items ++ rest = itemsText items' ++ rest' := by
  have hclose : kindOf? ']' = none := by decide
  rcases items with _ | ⟨v, items⟩ <;> rcases items' with _ | ⟨w, items'⟩
  · simpa [text, itemsText] using heq
  · rw [itemsFloatFree, Bool.and_eq_true] at h'
    simp only [text, List.cons_append, List.append_assoc, List.cons.injEq, true_and] at heq
    exact absurd heq.symm (text_append_ne_cons h'.1 hclose _ _)
  · rw [itemsFloatFree, Bool.and_eq_true] at h
    simp only [text, List.cons_append, List.append_assoc, List.cons.injEq, true_and] at heq
    exact absurd heq (text_append_ne_cons h.1 hclose _ _)
  · simpa [text, itemsText] using heq

/-- The texts of two objects agree if those of their members, each after a comma, do. -/
theorem object_append_inj {members members' : List (String × Json)} {rest rest' : List Char}
    (heq : (Json.object members).text ++ rest = (Json.object members').text ++ rest') :
    membersText members ++ rest = membersText members' ++ rest' := by
  rcases members with _ | ⟨⟨k, v⟩, members⟩ <;> rcases members' with _ | ⟨⟨k', w⟩, members'⟩
  · simpa [text, membersText] using heq
  · simp [text, quote] at heq
  · simp [text, quote] at heq
  · simpa [text, membersText] using heq

mutual

/-- A text begins with the text of at most one value that is not followed by a digit. -/
theorem text_append_inj : ∀ {v w : Json}, v.isFloatFree = true → w.isFloatFree = true →
    ∀ {rest rest' : List Char}, startsWithDigit rest = false → startsWithDigit rest' = false →
      v.text ++ rest = w.text ++ rest' → v = w ∧ rest = rest'
  | v, w, hv, hw, rest, rest', hrest, hrest', h => by
    have hkind := kind_eq hv hw h
    match v, w, hkind with
    | .null, .null, _ => exact ⟨rfl, by simpa [text] using h⟩
    | .bool true, .bool true, _ => exact ⟨rfl, by simpa [text] using h⟩
    | .bool false, .bool false, _ => exact ⟨rfl, by simpa [text] using h⟩
    | .number (.integer i), .number (.integer j), _ =>
      obtain ⟨rfl, hrest⟩ := Number.integerText_append_inj hrest hrest' h
      exact ⟨rfl, hrest⟩
    | .string s, .string s', _ =>
      obtain ⟨rfl, hrest⟩ := quote_append_inj h
      exact ⟨rfl, hrest⟩
    | .array items, .array items', _ =>
      obtain ⟨rfl, hrest⟩ := itemsText_append_inj hv hw (array_append_inj hv hw h)
      exact ⟨rfl, hrest⟩
    | .object members, .object members', _ =>
      obtain ⟨rfl, hrest⟩ := membersText_append_inj hv hw (object_append_inj h)
      exact ⟨rfl, hrest⟩

/-- A text begins with the items of at most one array. -/
theorem itemsText_append_inj : ∀ {items items' : List Json}, itemsFloatFree items = true →
    itemsFloatFree items' = true → ∀ {rest rest' : List Char},
      itemsText items ++ rest = itemsText items' ++ rest' → items = items' ∧ rest = rest'
  | [], [], _, _, _, _, h => ⟨rfl, by simpa [itemsText] using h⟩
  | [], _ :: _, _, _, _, _, h => by simp [itemsText] at h
  | _ :: _, [], _, _, _, _, h => by simp [itemsText] at h
  | v :: items, w :: items', hv, hw, rest, rest', h => by
    rw [itemsFloatFree, Bool.and_eq_true] at hv hw
    simp only [itemsText, List.cons_append, List.append_assoc, List.cons.injEq, true_and] at h
    obtain ⟨rfl, hitems⟩ := text_append_inj hv.1 hw.1 (startsWithDigit_itemsText _ _)
      (startsWithDigit_itemsText _ _) h
    obtain ⟨rfl, hrest⟩ := itemsText_append_inj hv.2 hw.2 hitems
    exact ⟨rfl, hrest⟩

/-- A text begins with the members of at most one object. -/
theorem membersText_append_inj : ∀ {members members' : List (String × Json)},
    membersFloatFree members = true → membersFloatFree members' = true →
      ∀ {rest rest' : List Char}, membersText members ++ rest = membersText members' ++ rest' →
        members = members' ∧ rest = rest'
  | [], [], _, _, _, _, h => ⟨rfl, by simpa [membersText] using h⟩
  | [], (_, _) :: _, _, _, _, _, h => by simp [membersText] at h
  | (_, _) :: _, [], _, _, _, _, h => by simp [membersText] at h
  | (k, v) :: members, (k', w) :: members', hv, hw, rest, rest', h => by
    rw [membersFloatFree, Bool.and_eq_true] at hv hw
    simp only [membersText, List.cons_append, List.append_assoc, List.cons.injEq, true_and] at h
    obtain ⟨rfl, hvalue⟩ := quote_append_inj h
    obtain ⟨rfl, hmembers⟩ := text_append_inj hv.1 hw.1 (startsWithDigit_membersText _ _)
      (startsWithDigit_membersText _ _) (List.cons.inj hvalue).2
    obtain ⟨rfl, hrest⟩ := membersText_append_inj hv.2 hw.2 hmembers
    exact ⟨rfl, hrest⟩

end

/-- Different values without floats have different texts. -/
theorem text_inj {v w : Json} (hv : v.isFloatFree = true) (hw : w.isFloatFree = true)
    (h : v.text = w.text) : v = w :=
  (text_append_inj hv hw rfl rfl (congrArg (· ++ []) h)).1

end Json

end TopicStream
