import TopicStream.Proofs.Json.Grammar

/-!
# The reader of values and the grammar

The reader finds a value in exactly the texts that say it. What it takes off a text is such a text
(soundness), and such a text is taken off whatever it stands before, unless that would continue a
number (completeness).

## Main results

* `parseChars_eq_ok_iff`: a whole text is read as a value exactly if it says the value;
* `readValue_text` and `nesting_le_of_readValue_text`: the compact text of a value is read where it
  stands exactly if it does not nest too deep.
-/

namespace TopicStream.Json

/-! ### Blanks -/

theorem Blank.append {a b : List Char} (ha : Blank a) (hb : Blank b) : Blank (a ++ b) := by
  intro c hc
  rcases List.mem_append.1 hc with hc | hc
  · exact ha c hc
  · exact hb c hc

/-- Before what is left stand blanks. -/
theorem skipBlanks_eq_cons {text rest : List Char} {c : Char} (h : skipBlanks text = c :: rest) :
    ∃ blanks, Blank blanks ∧ text = blanks ++ c :: rest := by
  refine ⟨text.takeWhile isBlank, fun c hc => List.mem_takeWhile_imp hc, ?_⟩
  rw [← h, skipBlanks, List.takeWhile_append_dropWhile]

/-- What is left does not begin with a blank. -/
theorem isBlank_of_skipBlanks {text rest : List Char} {c : Char} (h : skipBlanks text = c :: rest) :
    isBlank c = false := by
  have hnot := List.head?_dropWhile_not isBlank text
  rw [show text.dropWhile isBlank = c :: rest from h] at hnot
  exact hnot

theorem skipBlanks_append {blanks : List Char} (hblanks : Blank blanks) {c : Char}
    (hc : isBlank c = false) (rest : List Char) :
    skipBlanks (blanks ++ c :: rest) = c :: rest := by
  rw [skipBlanks, List.dropWhile_append_of_pos hblanks, List.dropWhile_cons_of_neg (by simp [hc])]

theorem skipBlanks_cons {c : Char} (hc : isBlank c = false) (rest : List Char) :
    skipBlanks (c :: rest) = c :: rest := skipBlanks_append blank_nil hc rest

theorem skipBlanks_eq_nil_iff {text : List Char} : skipBlanks text = [] ↔ Blank text :=
  List.dropWhile_eq_nil_iff

theorem endsLiteral_append {blanks rest : List Char} (hblanks : Blank blanks)
    (hrest : endsLiteral rest = true) : endsLiteral (blanks ++ rest) = true := by
  cases blanks with
  | nil => exact hrest
  | cons c blanks =>
    have hc := hblanks c List.mem_cons_self
    simp only [isBlank, Bool.or_eq_true, beq_iff_eq] at hc
    rcases hc with ((rfl | rfl) | rfl) | rfl <;> rfl

/-- Neither a blank nor a closing bracket begins a value. -/
theorem ne_of_kindOf? {c d : Char} {k : Kind} (h : kindOf? c = some k) (hd : kindOf? d ≠ some k) :
    c ≠ d := by
  rintro rfl
  exact hd h

theorem isBlank_of_kindOf? {c : Char} {k : Kind} (h : kindOf? c = some k) : isBlank c = false := by
  rw [Bool.eq_false_iff]
  intro hblank
  rw [kindOf?_of_blank hblank] at h
  cases h

/-! ### Between brackets -/

/-- Before an item stand a comma, unless it is the first one, and blanks. -/
theorem of_nextItem {first : Bool} {text rest : List Char} {next : Option (List Char)}
    (h : nextItem first text = .ok (next, rest)) :
    (next = none ∧ ∃ blanks, Blank blanks ∧ text = blanks ++ ']' :: rest) ∨
      ∃ item lead before, next = some item ∧ Lead first lead ∧ Blank before ∧
        text = lead ++ (before ++ item) := by
  -- blanks before the bracket, before the first item, or before a comma and again behind it
  cases hskip : skipBlanks text with
  | nil =>
    rw [nextItem, hskip] at h
    cases h
  | cons c after =>
    rw [nextItem, hskip] at h
    obtain ⟨blanks, hblanks, rfl⟩ := skipBlanks_eq_cons hskip
    dsimp only at h
    split_ifs at h with hclose hfirst hcomma
    · cases h
      exact .inl ⟨rfl, blanks, hblanks, by rw [hclose]⟩
    · cases h
      rw [hfirst]
      exact .inr ⟨_, [], blanks, rfl, .bracket, hblanks, rfl⟩
    · rw [Bool.not_eq_true] at hfirst
      rw [hfirst, hcomma]
      cases hskip' : skipBlanks after with
      | nil =>
        rw [hskip'] at h
        cases h
      | cons d after' =>
        rw [hskip'] at h
        obtain ⟨before, hbefore, rfl⟩ := skipBlanks_eq_cons hskip'
        dsimp only at h
        split_ifs at h
        cases h
        exact .inr ⟨_, blanks ++ [','], before, rfl, .comma hblanks, hbefore, by simp⟩

theorem nextItem_close (first : Bool) {blanks : List Char} (hblanks : Blank blanks)
    (rest : List Char) : nextItem first (blanks ++ ']' :: rest) = .ok (none, rest) := by
  rw [nextItem, skipBlanks_append hblanks (by decide)]
  rfl

theorem nextItem_lead {first : Bool} {lead before : List Char} (hlead : Lead first lead)
    (hbefore : Blank before) {c : Char} (hc : isBlank c = false) (hclose : c ≠ ']')
    (rest : List Char) :
    nextItem first (lead ++ (before ++ c :: rest)) = .ok (some (c :: rest), []) := by
  cases hlead with
  | bracket =>
    rw [List.nil_append, nextItem, skipBlanks_append hbefore hc]
    simp only [hclose, if_false, if_true]
  | comma hblanks =>
    rw [List.append_assoc, List.singleton_append, nextItem, skipBlanks_append hblanks (by decide)]
    simp [skipBlanks_append hbefore hc, hclose]

/-- Before a key stand a comma, unless it is the first one, and blanks. -/
theorem of_nextKey {first : Bool} {text rest : List Char} {next : Option (List Char)}
    (h : nextKey first text = .ok (next, rest)) :
    (next = none ∧ ∃ blanks, Blank blanks ∧ text = blanks ++ '\x7d' :: rest) ∨
      ∃ key lead before, next = some key ∧ Lead first lead ∧ Blank before ∧
        text = lead ++ (before ++ '"' :: key) := by
  cases hskip : skipBlanks text with
  | nil =>
    rw [nextKey, hskip] at h
    cases h
  | cons c after =>
    rw [nextKey, hskip] at h
    obtain ⟨blanks, hblanks, rfl⟩ := skipBlanks_eq_cons hskip
    dsimp only at h
    split_ifs at h with hclose hfirst hquote hcomma
    · cases h
      exact .inl ⟨rfl, blanks, hblanks, by rw [hclose]⟩
    · cases h
      rw [hfirst, hquote]
      exact .inr ⟨_, [], blanks, rfl, .bracket, hblanks, rfl⟩
    · rw [Bool.not_eq_true] at hfirst
      rw [hfirst, hcomma]
      cases hskip' : skipBlanks after with
      | nil =>
        rw [hskip'] at h
        cases h
      | cons d after' =>
        rw [hskip'] at h
        obtain ⟨before, hbefore, rfl⟩ := skipBlanks_eq_cons hskip'
        dsimp only at h
        split_ifs at h with hquote
        cases h
        rw [hquote]
        exact .inr ⟨_, blanks ++ [','], before, rfl, .comma hblanks, hbefore, by simp⟩

theorem nextKey_close (first : Bool) {blanks : List Char} (hblanks : Blank blanks)
    (rest : List Char) : nextKey first (blanks ++ '\x7d' :: rest) = .ok (none, rest) := by
  rw [nextKey, skipBlanks_append hblanks (by decide)]
  rfl

theorem nextKey_lead {first : Bool} {lead before : List Char} (hlead : Lead first lead)
    (hbefore : Blank before) (key : List Char) :
    nextKey first (lead ++ (before ++ '"' :: key)) = .ok (some key, []) := by
  cases hlead with
  | bracket =>
    rw [List.nil_append, nextKey, skipBlanks_append hbefore (by decide)]
    rfl
  | comma hblanks =>
    rw [List.append_assoc, List.singleton_append, nextKey, skipBlanks_append hblanks (by decide)]
    simp [skipBlanks_append hbefore (show isBlank '"' = false by decide)]

theorem afterColon_eq_ok_iff {text rest : List Char} :
    afterColon text = .ok rest ↔ ∃ blanks, Blank blanks ∧ text = blanks ++ ':' :: rest := by
  constructor
  · intro h
    unfold afterColon at h
    split at h
    · cases h
    rename_i c after hskip
    obtain ⟨blanks, hblanks, rfl⟩ := skipBlanks_eq_cons hskip
    split_ifs at h with hcolon
    cases h
    exact ⟨blanks, hblanks, by rw [hcolon]⟩
  · rintro ⟨blanks, hblanks, rfl⟩
    rw [afterColon, skipBlanks_append hblanks (by decide)]
    rfl

/-! ### Lists of parts -/

section Lists

variable {value : Reader Json} {part : List Char → Json → Prop}

/-- What a reader takes off a text are blanks and a text of what it finds. -/
def Sound (part : List Char → Json → Prop) (value : Reader Json) : Prop :=
  ∀ text v rest, value text = .ok (v, rest) →
    ∃ before inner, Blank before ∧ part inner v ∧ text = before ++ (inner ++ rest)

/-- A reader takes any text of less than a given length that says something off what follows it,
and finds what it says. -/
def Complete (part : List Char → Json → Prop) (bound : Nat) (value : Reader Json) : Prop :=
  ∀ before inner v rest, Blank before → part inner v → inner.length < bound →
    endsLiteral rest = true → value (before ++ (inner ++ rest)) = .ok (v, rest)

/-- What has been read up to the closing bracket are texts of the items found. -/
theorem partsSay_of_readItems (hvalue : Sound part value) {fuel : Nat} {first : Bool}
    {read items : List Json} {text rest : List Char}
    (h : readItems value fuel first read text = .ok (items, rest)) :
    ∃ inner more, text = inner ++ ']' :: rest ∧ PartsSay part first inner more ∧
      items = read.reverse ++ more := by
  induction fuel generalizing first read text with
  | zero => cases h
  | succ fuel ih =>
    rw [readItems] at h
    obtain ⟨⟨next, after⟩, hitem, hnext⟩ := bind_eq_ok_iff.1 h
    rcases of_nextItem hitem with ⟨rfl, blanks, hblanks, rfl⟩ |
      ⟨item, lead, before, rfl, hlead, hbefore, htext⟩
    · cases hnext
      exact ⟨blanks, [], rfl, .nil hblanks, (List.append_nil _).symm⟩
    · obtain ⟨⟨v, after'⟩, hv, hothers⟩ := bind_eq_ok_iff.1 hnext
      obtain ⟨tail, more, rfl, hmore, rfl⟩ := ih hothers
      obtain ⟨before', inner, hbefore', hpart, rfl⟩ := hvalue _ _ _ hv
      exact ⟨lead ++ (before ++ before' ++ (inner ++ tail)), v :: more, by rw [htext]; simp,
        .cons hlead (hbefore.append hbefore') hpart hmore, by simp⟩

/-- What has been read up to the closing brace are texts of the members found. -/
theorem partsSay_of_readMembers (hvalue : Sound part value) {keyFuel fuel : Nat} {first : Bool}
    {read members : List (String × Json)} {text rest : List Char}
    (h : readMembers value keyFuel fuel first read text = .ok (members, rest)) :
    ∃ inner more, text = inner ++ '\x7d' :: rest ∧
      PartsSay (MemberSays part) first inner more ∧ members = Members.insertAll read more := by
  induction fuel generalizing first read text with
  | zero => cases h
  | succ fuel ih =>
    rw [readMembers] at h
    obtain ⟨⟨next, after⟩, hkey, hnext⟩ := bind_eq_ok_iff.1 h
    rcases of_nextKey hkey with ⟨rfl, blanks, hblanks, rfl⟩ |
      ⟨key, lead, before, rfl, hlead, hbefore, htext⟩
    · cases hnext
      exact ⟨blanks, [], rfl, .nil hblanks, rfl⟩
    · obtain ⟨⟨k, after₁⟩, hstring, hcolon⟩ := bind_eq_ok_iff.1 hnext
      obtain ⟨after₂, hafter, hvalues⟩ := bind_eq_ok_iff.1 hcolon
      obtain ⟨⟨v, after₃⟩, hv, hothers⟩ := bind_eq_ok_iff.1 hvalues
      obtain ⟨tail, more, rfl, hmore, rfl⟩ := ih hothers
      obtain ⟨before', inner, hbefore', hpart, rfl⟩ := hvalue _ _ _ hv
      obtain ⟨blanks, hblanks, rfl⟩ := afterColon_eq_ok_iff.1 hafter
      obtain ⟨quoted, hquoted, hsaid⟩ := stringSays_of_readString hstring
      have hmember : MemberSays part (quoted ++ (blanks ++ ':' :: (before' ++ inner))) (k, v) :=
        ⟨quoted, blanks, before', inner, hsaid, hblanks, hbefore', hpart, rfl⟩
      exact ⟨_, (k, v) :: more, by rw [htext, hquoted]; simp, .cons hlead hbefore hmember hmore,
        rfl⟩

/-- After a part no literal goes on. -/
theorem endsLiteral_of_partsSay {α : Type} {part : List Char → α → Prop} {text : List Char}
    {more : List α} (h : PartsSay part false text more) {rest : List Char}
    (hrest : endsLiteral rest = true) : endsLiteral (text ++ rest) = true := by
  cases h with
  | nil hblanks => exact endsLiteral_append hblanks hrest
  | cons hlead =>
    cases hlead with
    | comma hblanks =>
      rw [List.append_assoc, List.append_assoc]
      exact endsLiteral_append hblanks rfl

/-- Texts of items are read as these up to the closing bracket. -/
theorem readItems_of_partsSay {bound : Nat} (hvalue : Complete part bound value)
    (hbegin : ∀ {inner v}, part inner v → ∃ c text, inner = c :: text ∧ kindOf? c = some v.kind)
    {first : Bool} {inner : List Char} {more : List Json} (h : PartsSay part first inner more)
    {fuel : Nat} (hfuel : inner.length < fuel) (hbound : inner.length < bound)
    (read : List Json) (rest : List Char) :
    readItems value fuel first read (inner ++ ']' :: rest) = .ok (read.reverse ++ more, rest) := by
  obtain ⟨fuel, rfl⟩ := Nat.exists_eq_add_one_of_ne_zero (Nat.ne_zero_of_lt hfuel)
  induction h generalizing fuel read with
  | @nil first blanks hblanks =>
    rw [List.append_nil]
    exact bind_eq_ok_iff.2 ⟨_, nextItem_close first hblanks rest, rfl⟩
  | @cons first lead before inner tail v others hlead hbefore hpart hothers ih =>
    obtain ⟨c, text, rfl, hc⟩ := hbegin hpart
    simp only [List.length_append, List.length_cons] at hfuel hbound
    obtain ⟨fuel, rfl⟩ := Nat.exists_eq_add_one_of_ne_zero (show fuel ≠ 0 by omega)
    have hclose : kindOf? ']' = none := by decide
    have hitem := nextItem_lead hlead hbefore (isBlank_of_kindOf? hc)
      (ne_of_kindOf? hc (by rw [hclose]; nofun)) (text ++ (tail ++ ']' :: rest))
    -- the blanks before the item have been skipped
    have hv := hvalue [] (c :: text) v (tail ++ ']' :: rest) blank_nil hpart
      (by rw [List.length_cons]; omega) (endsLiteral_of_partsSay hothers rfl)
    have hmore := ih (by omega) (v :: read) fuel (by omega)
    rw [List.reverse_cons, List.append_assoc, List.singleton_append] at hmore
    simp only [List.append_assoc, List.cons_append]
    exact bind_eq_ok_iff.2 ⟨_, hitem, bind_eq_ok_iff.2 ⟨_, hv, hmore⟩⟩

/-- Texts of members are read as these up to the closing brace. -/
theorem readMembers_of_partsSay {bound keyFuel : Nat} (hvalue : Complete part bound value)
    {first : Bool} {inner : List Char} {more : List (String × Json)}
    (h : PartsSay (MemberSays part) first inner more) {fuel : Nat} (hfuel : inner.length < fuel)
    (hbound : inner.length < bound) (hkey : inner.length ≤ keyFuel)
    (read : List (String × Json)) (rest : List Char) :
    readMembers value keyFuel fuel first read (inner ++ '\x7d' :: rest) =
      .ok (Members.insertAll read more, rest) := by
  obtain ⟨fuel, rfl⟩ := Nat.exists_eq_add_one_of_ne_zero (Nat.ne_zero_of_lt hfuel)
  induction h generalizing fuel read with
  | @nil first blanks hblanks =>
    exact bind_eq_ok_iff.2 ⟨_, nextKey_close first hblanks rest, rfl⟩
  | @cons first lead before inner tail m others hlead hbefore hpart hothers ih =>
    obtain ⟨key, blanks, before', inner, hsaid, hblanks, hbefore', hpart, rfl⟩ := hpart
    simp only [List.length_append, List.length_cons] at hfuel hbound hkey
    obtain ⟨fuel, rfl⟩ := Nat.exists_eq_add_one_of_ne_zero (show fuel ≠ 0 by omega)
    obtain ⟨quoted, hquoted, hstring⟩ := readString_of_stringSays hsaid
      (show key.length ≤ keyFuel by omega)
      (blanks ++ ':' :: (before' ++ (inner ++ (tail ++ '\x7d' :: rest))))
    have hnext := nextKey_lead hlead hbefore quoted
    rw [← hquoted] at hnext
    have hcolon := afterColon_eq_ok_iff.2 ⟨blanks, hblanks, Eq.refl
      (blanks ++ ':' :: (before' ++ (inner ++ (tail ++ '\x7d' :: rest))))⟩
    have hv := hvalue before' inner m.2 (tail ++ '\x7d' :: rest) hbefore' hpart (by omega)
      (endsLiteral_of_partsSay hothers rfl)
    have hmore := ih (by omega) (by omega) (Members.insert m.1 m.2 read) fuel (by omega)
    simp only [List.append_assoc, List.cons_append]
    exact bind_eq_ok_iff.2 ⟨_, hnext, bind_eq_ok_iff.2 ⟨_, hstring,
      bind_eq_ok_iff.2 ⟨_, hcolon, bind_eq_ok_iff.2 ⟨_, hv, hmore⟩⟩⟩⟩

end Lists

/-! ### Values -/

theorem readWord_eq_ok_iff {word text rest : List Char} :
    readWord word text = .ok rest ↔ text = word ++ rest := by
  induction word generalizing text with
  | nil => exact ⟨fun h => Except.ok.inj h, congrArg _⟩
  | cons w word ih =>
    cases text with
    | nil => exact ⟨nofun, nofun⟩
    | cons c text =>
      rw [readWord, List.cons_append, List.cons.injEq]
      by_cases hc : c = w
      · rw [if_pos hc, ih, and_iff_right hc]
      · rw [if_neg hc]
        exact ⟨nofun, fun h => absurd h.1 hc⟩

/-- What has been read behind the sign is a literal. -/
theorem numberSays_of_readNumber {negative : Bool} {text rest : List Char} {n : Number}
    (h : readNumber negative text = .ok (n, rest)) :
    ∃ literal, text = literal ++ rest ∧
      NumberSays (if negative then '-' :: literal else literal) n := by
  obtain ⟨-, literal, rfl, hliteral, hread⟩ := readNumber_takes _ _ _ _ h
  have hwhole := hread [] rfl
  rw [List.append_nil] at hwhole
  exact ⟨literal, rfl, negative, literal, hliteral, hwhole, rfl⟩

/-- A literal is read where it stands as it is read alone. -/
theorem readNumber_append {negative : Bool} {literal rest : List Char} {n : Number}
    (h : readNumber negative literal = .ok (n, [])) (hrest : endsLiteral rest = true) :
    readNumber negative (literal ++ rest) = .ok (n, rest) := by
  obtain ⟨-, used, hused, -, hread⟩ := readNumber_takes _ _ _ _ h
  rw [List.append_nil] at hused
  exact hused ▸ hread rest hrest

theorem readScalar_digit (fuel : Nat) {c : Char} (hc : c.isDigit = true) (text : List Char) :
    readScalar fuel c text = (do
      let (n, rest) ← readNumber false (c :: text)
      .ok (.number n, rest)) := by
  have hother : ∀ d, d.isDigit = false → c ≠ d := by
    rintro d hd rfl
    rw [hc] at hd
    cases hd
  rw [readScalar, if_neg (hother 'n' (by decide)), if_neg (hother 't' (by decide)),
    if_neg (hother 'f' (by decide)), if_neg (hother '-' (by decide)), if_pos hc]

/-- What has been read is a text of the value found. -/
theorem scalarSays_of_readScalar {fuel : Nat} {c : Char} {text rest : List Char} {v : Json}
    (h : readScalar fuel c text = .ok (v, rest)) :
    ∃ inner, c :: text = inner ++ rest ∧ ScalarSays inner v := by
  unfold readScalar at h
  split_ifs at h with hnull hyes hno hminus hdigit hquote
  · obtain ⟨_, hword, hv⟩ := bind_eq_ok_iff.1 h
    cases hv
    exact ⟨_, by rw [hnull, readWord_eq_ok_iff.1 hword]; rfl, .null⟩
  · obtain ⟨_, hword, hv⟩ := bind_eq_ok_iff.1 h
    cases hv
    exact ⟨_, by rw [hyes, readWord_eq_ok_iff.1 hword]; rfl, .yes⟩
  · obtain ⟨_, hword, hv⟩ := bind_eq_ok_iff.1 h
    cases hv
    exact ⟨_, by rw [hno, readWord_eq_ok_iff.1 hword]; rfl, .no⟩
  · obtain ⟨⟨n, _⟩, hnumber, hv⟩ := bind_eq_ok_iff.1 h
    cases hv
    obtain ⟨literal, rfl, hliteral⟩ := numberSays_of_readNumber hnumber
    exact ⟨'-' :: literal, by rw [hminus]; rfl, .number hliteral⟩
  · obtain ⟨⟨n, _⟩, hnumber, hv⟩ := bind_eq_ok_iff.1 h
    cases hv
    obtain ⟨literal, htext, hliteral⟩ := numberSays_of_readNumber hnumber
    exact ⟨literal, htext, .number hliteral⟩
  · obtain ⟨⟨s, _⟩, hstring, hv⟩ := bind_eq_ok_iff.1 h
    cases hv
    obtain ⟨inner, hinner, hsaid⟩ := stringSays_of_readString hstring
    exact ⟨inner, by rw [hquote, hinner], .string hsaid⟩

/-- A text of a value is read as that value. -/
theorem readScalar_of_scalarSays {text : List Char} {v : Json} (h : ScalarSays text v) {fuel : Nat}
    (hfuel : text.length ≤ fuel) {rest : List Char} (hrest : endsLiteral rest = true) :
    ∃ c after, text ++ rest = c :: after ∧ readScalar fuel c after = .ok (v, rest) := by
  cases h with
  | null => exact ⟨'n', _, rfl, rfl⟩
  | yes => exact ⟨'t', _, rfl, rfl⟩
  | no => exact ⟨'f', _, rfl, rfl⟩
  | number literal =>
    obtain ⟨negative, literal, hliteral, hread, rfl⟩ := literal
    have hnumber := readNumber_append hread hrest
    cases negative with
    | true =>
      exact ⟨'-', literal ++ rest, rfl, bind_eq_ok_iff.2 ⟨_, hnumber, rfl⟩⟩
    | false =>
      obtain ⟨c, text, rfl, hc⟩ := exists_literal_eq_cons hliteral
      exact ⟨c, text ++ rest, rfl, by
        rw [readScalar_digit fuel hc]
        exact bind_eq_ok_iff.2 ⟨_, hnumber, rfl⟩⟩
  | string quoted =>
    obtain ⟨after, htext, hread⟩ := readString_of_stringSays quoted hfuel rest
    exact ⟨'"', after, htext, bind_eq_ok_iff.2 ⟨_, hread, rfl⟩⟩

/-- Arrays, objects and other values are told apart by their first characters. -/
theorem readValue_scalar (fuel depth : Nat) {blanks : List Char} (hblanks : Blank blanks) {c : Char}
    (hc : isBlank c = false) (harray : c ≠ '[') (hobject : c ≠ '\x7b') (text : List Char) :
    readValue fuel depth (blanks ++ c :: text) = readScalar fuel c text := by
  cases depth with
  | zero =>
    rw [readValue, skipBlanks_append hblanks hc]
    exact if_neg (not_or.2 ⟨harray, hobject⟩)
  | succ depth =>
    rw [readValue, skipBlanks_append hblanks hc]
    exact (if_neg harray).trans (if_neg hobject)

theorem readValue_array (fuel depth : Nat) {blanks : List Char} (hblanks : Blank blanks)
    (text : List Char) :
    readValue fuel (depth + 1) (blanks ++ '[' :: text) = (do
      let (items, rest) ← readItems (readValue fuel depth) fuel true [] text
      .ok (.array items, rest)) := by
  rw [readValue, skipBlanks_append hblanks (by decide)]
  rfl

theorem readValue_object (fuel depth : Nat) {blanks : List Char} (hblanks : Blank blanks)
    (text : List Char) :
    readValue fuel (depth + 1) (blanks ++ '\x7b' :: text) = (do
      let (members, rest) ← readMembers (readValue fuel depth) fuel fuel true [] text
      .ok (.object members, rest)) := by
  rw [readValue, skipBlanks_append hblanks (by decide)]
  rfl

theorem readValue_zero (fuel : Nat) {blanks : List Char} (hblanks : Blank blanks) {c : Char}
    (h : c = '[' ∨ c = '\x7b') (text : List Char) :
    readValue fuel 0 (blanks ++ c :: text) = .error (.next .tooDeep (c :: text)) := by
  have hc : isBlank c = false := by rcases h with rfl | rfl <;> decide
  rw [readValue, skipBlanks_append hblanks hc]
  exact if_pos h

/-- What is read behind blanks are a scalar, items or members. -/
theorem readValue_cases {fuel depth : Nat} {text rest : List Char} {v : Json}
    (h : readValue fuel depth text = .ok (v, rest)) :
    ∃ blanks, Blank blanks ∧
      ((∃ c after, text = blanks ++ c :: after ∧ isBlank c = false ∧ c ≠ '[' ∧ c ≠ '\x7b' ∧
          readScalar fuel c after = .ok (v, rest)) ∨
        (∃ d after items, depth = d + 1 ∧ text = blanks ++ '[' :: after ∧ v = .array items ∧
          readItems (readValue fuel d) fuel true [] after = .ok (items, rest)) ∨
        ∃ d after members, depth = d + 1 ∧ text = blanks ++ '\x7b' :: after ∧ v = .object members ∧
          readMembers (readValue fuel d) fuel fuel true [] after = .ok (members, rest)) := by
  cases hskip : skipBlanks text with
  | nil => cases depth <;> simp [readValue, hskip] at h
  | cons c after =>
    obtain ⟨blanks, hblanks, rfl⟩ := skipBlanks_eq_cons hskip
    refine ⟨blanks, hblanks, ?_⟩
    by_cases hopens : c = '[' ∨ c = '\x7b'
    · cases depth with
      | zero =>
        rw [readValue_zero fuel hblanks hopens] at h
        cases h
      | succ depth =>
        rcases hopens with rfl | rfl
        · rw [readValue_array fuel depth hblanks] at h
          obtain ⟨⟨items, _⟩, hitems, hv⟩ := bind_eq_ok_iff.1 h
          cases hv
          exact .inr (.inl ⟨depth, after, items, rfl, rfl, rfl, hitems⟩)
        · rw [readValue_object fuel depth hblanks] at h
          obtain ⟨⟨members, _⟩, hmembers, hv⟩ := bind_eq_ok_iff.1 h
          cases hv
          exact .inr (.inr ⟨depth, after, members, rfl, rfl, rfl, hmembers⟩)
    · obtain ⟨harray, hobject⟩ := not_or.1 hopens
      have hc := isBlank_of_skipBlanks hskip
      rw [readValue_scalar fuel depth hblanks hc harray hobject] at h
      exact .inl ⟨c, after, rfl, hc, harray, hobject, h⟩

/-- What has been read are blanks and a text of the value found. -/
theorem sound_readValue (fuel depth : Nat) : Sound (Says depth) (readValue fuel depth) := by
  induction depth with
  | zero =>
    intro text v rest h
    obtain ⟨blanks, hblanks, ⟨c, after, rfl, -, -, -, hscalar⟩ | ⟨_, _, _, hdepth, -⟩ |
      ⟨_, _, _, hdepth, -⟩⟩ := readValue_cases h
    · obtain ⟨inner, htext, hinner⟩ := scalarSays_of_readScalar hscalar
      exact ⟨blanks, inner, hblanks, hinner, by rw [htext]⟩
    · cases hdepth
    · cases hdepth
  | succ depth ih =>
    intro text v rest h
    obtain ⟨blanks, hblanks, ⟨c, after, rfl, -, -, -, hscalar⟩ |
      ⟨_, after, items, hdepth, rfl, rfl, hitems⟩ |
      ⟨_, after, members, hdepth, rfl, rfl, hmembers⟩⟩ := readValue_cases h
    · obtain ⟨inner, htext, hinner⟩ := scalarSays_of_readScalar hscalar
      exact ⟨blanks, inner, hblanks, .inl hinner, by rw [htext]⟩
    · cases hdepth
      obtain ⟨inner, more, rfl, hmore, rfl⟩ := partsSay_of_readItems ih hitems
      exact ⟨blanks, _, hblanks, .inr (.inl ⟨inner, _, hmore, rfl, rfl⟩), by simp⟩
    · cases hdepth
      obtain ⟨inner, more, rfl, hmore, rfl⟩ := partsSay_of_readMembers ih hmembers
      refine ⟨blanks, _, hblanks, .inr (.inr ⟨inner, more, hmore, rfl, ?_⟩), by simp⟩
      rw [ofMap, KeyMap.members_ofList]

theorem readValue_of_scalarSays {fuel depth : Nat} {before inner rest : List Char} {v : Json}
    (hbefore : Blank before) (h : ScalarSays inner v) (hfuel : inner.length ≤ fuel)
    (hrest : endsLiteral rest = true) :
    readValue fuel depth (before ++ (inner ++ rest)) = .ok (v, rest) := by
  obtain ⟨c, text, rfl, hkind⟩ := exists_scalar_eq_cons h
  obtain ⟨_, after, htext, hread⟩ := readScalar_of_scalarSays h hfuel hrest
  obtain ⟨rfl, rfl⟩ := List.cons.inj htext
  have harray : kindOf? '[' ≠ some v.kind := by cases h <;> nofun
  have hobject : kindOf? '\x7b' ≠ some v.kind := by cases h <;> nofun
  exact (readValue_scalar fuel depth hbefore (isBlank_of_kindOf? hkind) (ne_of_kindOf? hkind harray)
    (ne_of_kindOf? hkind hobject) _).trans hread

/-- A text of a value is read where it stands. -/
theorem complete_readValue (fuel depth : Nat) :
    Complete (Says depth) fuel (readValue fuel depth) := by
  induction depth with
  | zero => exact fun _ _ _ _ hbefore h hfuel => readValue_of_scalarSays hbefore h hfuel.le
  | succ depth ih =>
    rintro before _ v rest hbefore (h | ⟨inner, items, hitems, rfl, rfl⟩ |
      ⟨inner, members, hmembers, rfl, rfl⟩) hfuel hrest
    · exact readValue_of_scalarSays hbefore h hfuel.le hrest
    · rw [List.length_cons, List.length_append] at hfuel
      rw [List.cons_append, List.append_assoc, readValue_array fuel depth hbefore]
      exact bind_eq_ok_iff.2 ⟨_, readItems_of_partsSay ih Says.exists_eq_cons hitems (by omega)
        (by omega) [] rest, rfl⟩
    · rw [List.length_cons, List.length_append] at hfuel
      rw [List.cons_append, List.append_assoc, readValue_object fuel depth hbefore, ofMap,
        KeyMap.members_ofList]
      exact bind_eq_ok_iff.2 ⟨_, readMembers_of_partsSay ih hmembers (by omega)
        (by omega) (by omega) [] rest, rfl⟩

/-! ### Nesting -/

section Nesting

variable {value value' : Reader Json}

/-- What is read with one reader of values is read with another that reads as much. -/
theorem readItems_mono (h : ∀ {text x}, value text = .ok x → value' text = .ok x) {fuel : Nat}
    {first : Bool} {read : List Json} {text : List Char} {x : List Json × List Char}
    (hread : readItems value fuel first read text = .ok x) :
    readItems value' fuel first read text = .ok x := by
  induction fuel generalizing first read text with
  | zero => cases hread
  | succ fuel ih =>
    obtain ⟨⟨next, after⟩, hitem, hnext⟩ := bind_eq_ok_iff.1 hread
    refine bind_eq_ok_iff.2 ⟨_, hitem, ?_⟩
    cases next with
    | none => exact hnext
    | some item =>
      obtain ⟨_, hv, hothers⟩ := bind_eq_ok_iff.1 hnext
      exact bind_eq_ok_iff.2 ⟨_, h hv, ih hothers⟩

theorem readMembers_mono (h : ∀ {text x}, value text = .ok x → value' text = .ok x)
    {keyFuel fuel : Nat} {first : Bool} {read : List (String × Json)} {text : List Char}
    {x : List (String × Json) × List Char}
    (hread : readMembers value keyFuel fuel first read text = .ok x) :
    readMembers value' keyFuel fuel first read text = .ok x := by
  induction fuel generalizing first read text with
  | zero => cases hread
  | succ fuel ih =>
    obtain ⟨⟨next, after⟩, hkey, hnext⟩ := bind_eq_ok_iff.1 hread
    refine bind_eq_ok_iff.2 ⟨_, hkey, ?_⟩
    cases next with
    | none => exact hnext
    | some key =>
      obtain ⟨_, hstring, hcolon⟩ := bind_eq_ok_iff.1 hnext
      obtain ⟨_, hafter, hvalues⟩ := bind_eq_ok_iff.1 hcolon
      obtain ⟨_, hv, hothers⟩ := bind_eq_ok_iff.1 hvalues
      exact bind_eq_ok_iff.2 ⟨_, hstring, bind_eq_ok_iff.2 ⟨_, hafter,
        bind_eq_ok_iff.2 ⟨_, h hv, ih hothers⟩⟩⟩

end Nesting

/-- What is read with some nesting is read with more. -/
theorem readValue_succ {fuel depth : Nat} {text : List Char} {x : Json × List Char}
    (h : readValue fuel depth text = .ok x) : readValue fuel (depth + 1) text = .ok x := by
  obtain ⟨v, rest⟩ := x
  induction depth generalizing text v rest with
  | zero =>
    obtain ⟨blanks, hblanks, ⟨c, after, rfl, hc, harray, hobject, hscalar⟩ | ⟨_, _, _, hdepth, -⟩ |
      ⟨_, _, _, hdepth, -⟩⟩ := readValue_cases h
    · rwa [readValue_scalar fuel _ hblanks hc harray hobject]
    · cases hdepth
    · cases hdepth
  | succ depth ih =>
    obtain ⟨blanks, hblanks, ⟨c, after, rfl, hc, harray, hobject, hscalar⟩ |
      ⟨_, after, items, hdepth, rfl, rfl, hitems⟩ |
      ⟨_, after, members, hdepth, rfl, rfl, hmembers⟩⟩ := readValue_cases h
    · rwa [readValue_scalar fuel _ hblanks hc harray hobject]
    · cases hdepth
      rw [readValue_array fuel _ hblanks]
      exact bind_eq_ok_iff.2 ⟨_, readItems_mono (fun h => ih _ _ h) hitems, rfl⟩
    · cases hdepth
      rw [readValue_object fuel _ hblanks]
      exact bind_eq_ok_iff.2 ⟨_, readMembers_mono (fun h => ih _ _ h) hmembers, rfl⟩

theorem readValue_of_le {fuel depth depth' : Nat} (hle : depth ≤ depth') {text : List Char}
    {x : Json × List Char} (h : readValue fuel depth text = .ok x) :
    readValue fuel depth' text = .ok x := by
  induction hle with
  | refl => exact h
  | step _ ih => exact readValue_succ ih

section Text

variable {fuel depth : Nat} {v : Json} {rest : List Char}

/-- The text of a value is read where it stands, if it does not nest too deep. -/
theorem readValue_text (hv : v.WellFormed) (hfree : v.isFloatFree = true)
    (hnesting : v.nesting ≤ depth) (hfuel : v.text.length < fuel)
    (hrest : endsLiteral rest = true) : readValue fuel depth (v.text ++ rest) = .ok (v, rest) :=
  complete_readValue fuel depth [] v.text v rest blank_nil (says_text hv hfree hnesting) hfuel hrest

/-- Nothing is read from the text of a value that nests too deep. -/
theorem nesting_le_of_readValue_text (hv : v.WellFormed) (hfree : v.isFloatFree = true)
    (hfuel : v.text.length < fuel) (hrest : endsLiteral rest = true) {x : Json × List Char}
    (h : readValue fuel depth (v.text ++ rest) = .ok x) : v.nesting ≤ depth := by
  -- with more nesting the value itself is read, and so it is here
  have hmore := readValue_of_le (Nat.le_max_left depth v.nesting) h
  rw [readValue_text hv hfree (Nat.le_max_right depth v.nesting) hfuel hrest] at hmore
  obtain rfl := Except.ok.inj hmore
  obtain ⟨-, inner, -, hsaid, -⟩ := sound_readValue _ _ _ _ _ h
  exact (Says.wellFormed hsaid).2

end Text

/-! ### Whole texts -/

theorem readWhole_eq_ok_iff {α : Type} {read : Nat → Reader α} {text : List Char} {v : α} :
    readWhole read text = .ok v ↔
      ∃ rest, read (text.length + 1) text = .ok (v, rest) ∧ Blank rest := by
  constructor
  · intro h
    obtain ⟨⟨v', rest⟩, hread, hrest⟩ := bind_eq_ok_iff.1 h
    dsimp only at hrest
    split at hrest
    · rename_i hskip
      cases hrest
      exact ⟨rest, hread, skipBlanks_eq_nil_iff.1 hskip⟩
    · cases hrest
  · rintro ⟨rest, hread, hrest⟩
    refine bind_eq_ok_iff.2 ⟨_, hread, ?_⟩
    simp only [skipBlanks_eq_nil_iff.2 hrest]

/-- A text is read as a value exactly if it says the value. -/
theorem parseChars_eq_ok_iff {text : List Char} {v : Json} :
    parseChars text = .ok v ↔ TextSays maxDepth text v := by
  rw [parseChars, mapError_eq_ok_iff, readWhole_eq_ok_iff]
  constructor
  · rintro ⟨after, hread, hafter⟩
    obtain ⟨before, inner, hbefore, hinner, htext⟩ := sound_readValue _ _ _ _ _ hread
    exact ⟨before, inner, after, hbefore, hinner, hafter, htext⟩
  · rintro ⟨before, inner, after, hbefore, hinner, hafter, rfl⟩
    refine ⟨after, complete_readValue _ _ _ _ _ _ hbefore hinner ?_ ?_, hafter⟩
    · simp only [List.length_append]
      omega
    · simpa using endsLiteral_append hafter (rfl : endsLiteral [] = true)

end TopicStream.Json
