import TopicStream.Json.Parser
import TopicStream.Json.Printer
import TopicStream.Proofs.Text.Form

/-!
# Strings of JSON texts

A string is written character by character, some of them as escapes. Which texts say which string is
put down without a reader; the reader of strings takes such a text off a text and finds the string
that it says.

## Main results

* `stringSays_of_readString`: what has been read is a text of the string found;
* `readString_of_stringSays`: a text of a string is read as that string.
-/

namespace TopicStream.Json

/-! ### Results of readings -/

section Results

variable {ε ε' α β : Type} {x : Except ε α} {a : α}

/-- Two readings in a row succeed if both do. -/
theorem bind_eq_ok_iff {f : α → Except ε β} {b : β} :
    (x >>= f) = .ok b ↔ ∃ a, x = .ok a ∧ f a = .ok b := by
  cases x with
  | error e => exact ⟨nofun, nofun⟩
  | ok a =>
    constructor
    · exact fun h => ⟨a, rfl, h⟩
    · rintro ⟨a', ha, h⟩
      cases ha
      exact h

theorem mapError_eq_ok_iff {f : ε → ε'} : x.mapError f = .ok a ↔ x = .ok a := by
  cases x with
  | error e => exact ⟨nofun, nofun⟩
  | ok a' => exact (Except.ok.injEq ..).to_iff.trans (Except.ok.injEq ..).to_iff.symm

theorem toOption_eq_some_iff : x.toOption = some a ↔ x = .ok a := by
  cases x with
  | error e => exact ⟨nofun, nofun⟩
  | ok a' => exact (Option.some.injEq ..).to_iff.trans (Except.ok.injEq ..).to_iff.symm

end Results

/-! ### What texts of strings say -/

/-- The character that a backslash and a letter or mark stand for. -/
def escaped? (mark : Char) : Option Char :=
  if mark = '"' ∨ mark = '\\' ∨ mark = '/' then some mark
  else if mark = 'b' then some (Char.ofNat 8)
  else if mark = 'f' then some (Char.ofNat 12)
  else if mark = 'n' then some '\n'
  else if mark = 'r' then some '\r'
  else if mark = 't' then some '\t'
  else none

/-- The character of a surrogate pair with the given halves. -/
def joinHalves (high low : Nat) : Char :=
  Char.ofNat (0x10000 + (high - 0xD800) * 0x400 + (low - 0xDC00))

/-- What may stand for a character inside a string. -/
inductive CharSays : List Char → Char → Prop where
  /-- The character itself, if it is neither the quote nor the backslash nor a control. -/
  | plain {c : Char} (quote : c ≠ '"') (backslash : c ≠ '\\') (control : 0x20 ≤ c.toNat) :
      CharSays [c] c
  /-- A backslash and a mark. -/
  | mark {d c : Char} (stands : escaped? d = some c) : CharSays ['\\', d] c
  /-- Its code point in four digits. -/
  | code {h₁ h₂ h₃ h₄ : Char} {n : Nat} (digits : hexValue4? h₁ h₂ h₃ h₄ = some n)
      (leading : isLeading n = false) (trailing : isTrailing n = false) :
      CharSays ['\\', 'u', h₁, h₂, h₃, h₄] (Char.ofNat n)
  /-- The two halves of its surrogate pair, in four digits each. -/
  | pair {h₁ h₂ h₃ h₄ l₁ l₂ l₃ l₄ : Char} {m n : Nat} (high : hexValue4? h₁ h₂ h₃ h₄ = some m)
      (low : hexValue4? l₁ l₂ l₃ l₄ = some n) (leading : isLeading m = true)
      (trailing : isTrailing n = true) :
      CharSays ['\\', 'u', h₁, h₂, h₃, h₄, '\\', 'u', l₁, l₂, l₃, l₄] (joinHalves m n)

/-- What may stand for the characters of a string, between its quotes. -/
inductive CharsSay : List Char → List Char → Prop where
  /-- Nothing for none. -/
  | nil : CharsSay [] []
  /-- A character, and then the others. -/
  | cons {piece : List Char} {c : Char} {text : List Char} {chars : List Char}
      (first : CharSays piece c) (others : CharsSay text chars) :
      CharsSay (piece ++ text) (c :: chars)

/-- A string with its quotes. -/
def StringSays (text : List Char) (s : String) : Prop :=
  ∃ inner, CharsSay inner s.toList ∧ text = '"' :: (inner ++ ['"'])

/-! ### Escapes -/

theorem readHex4_eq_ok_iff {text rest : List Char} {n : Nat} :
    readHex4 text = .ok (n, rest) ↔
      ∃ a b c d, text = a :: b :: c :: d :: rest ∧ hexValue4? a b c d = some n := by
  constructor
  · intro h
    rcases text with _ | ⟨a, _ | ⟨b, _ | ⟨c, _ | ⟨d, text⟩⟩⟩⟩
    -- four bytes are too few or are no digits
    any_goals
      simp only [readHex4] at h
      split at h <;> cases h
    simp only [readHex4] at h
    split at h
    · rename_i m hm
      cases h
      exact ⟨a, b, c, d, rfl, hm⟩
    · split at h <;> cases h
  · rintro ⟨a, b, c, d, rfl, h⟩
    simp only [readHex4, h]

/-- A mark other than that of a code point is looked up. -/
theorem readEscape_mark {d : Char} (h : d ≠ 'u') (text : List Char) :
    readEscape (d :: text) =
      match escaped? d with
      | some c => .ok (c, text)
      | none => .error (.next .invalidEscape (d :: text)) := by
  have hmark : readEscape (d :: text) =
      if d = '"' ∨ d = '\\' ∨ d = '/' then .ok (d, text)
      else if d = 'b' then .ok (Char.ofNat 8, text)
      else if d = 'f' then .ok (Char.ofNat 12, text)
      else if d = 'n' then .ok ('\n', text)
      else if d = 'r' then .ok ('\r', text)
      else if d = 't' then .ok ('\t', text)
      else .error (.next .invalidEscape (d :: text)) := by
    rw [readEscape]
    exact h
  rw [hmark]
  unfold escaped?
  split_ifs <;> rfl

/-- What is read behind the first half of a surrogate pair is the escape of the other half. -/
theorem readTrailing_eq_ok_iff {m : Nat} {text rest : List Char} {c : Char} :
    readTrailing m text = .ok (c, rest) ↔
      ∃ a b d e n, text = '\\' :: 'u' :: a :: b :: d :: e :: rest ∧
        hexValue4? a b d e = some n ∧ isTrailing n = true ∧
        c = joinHalves m n := by
  constructor
  · intro h
    unfold readTrailing at h
    split at h
    any_goals cases h
    obtain ⟨⟨n, text'⟩, hhex, hrest⟩ := bind_eq_ok_iff.1 h
    obtain ⟨a, b, d, e, rfl, hn⟩ := readHex4_eq_ok_iff.1 hhex
    dsimp only at hrest
    split at hrest
    · rename_i htrailing
      rw [Except.ok.injEq, Prod.mk.injEq] at hrest
      obtain ⟨rfl, rfl⟩ := hrest
      exact ⟨a, b, d, e, n, rfl, hn, htrailing, rfl⟩
    · cases hrest
  · rintro ⟨a, b, d, e, n, rfl, hn, htrailing, hc⟩
    have hhex := readHex4_eq_ok_iff.2 ⟨a, b, d, e, Eq.refl (a :: b :: d :: e :: rest), hn⟩
    rw [readTrailing, hhex, hc, joinHalves]
    simp only [bind, Except.bind, htrailing, if_true]

/-- What is read behind a backslash is the rest of an escape. -/
theorem charSays_of_readEscape {text rest : List Char} {c : Char}
    (h : readEscape text = .ok (c, rest)) :
    ∃ piece, text = piece ++ rest ∧ CharSays ('\\' :: piece) c := by
  cases text with
  | nil => cases h
  | cons d text =>
    by_cases hd : d = 'u'
    · subst hd
      rw [readEscape] at h
      obtain ⟨⟨m, text'⟩, hhex, hrest⟩ := bind_eq_ok_iff.1 h
      obtain ⟨h₁, h₂, h₃, h₄, rfl, hm⟩ := readHex4_eq_ok_iff.1 hhex
      dsimp only at hrest
      split at hrest
      · cases hrest
      · rename_i htrailing
        split at hrest
        · rename_i hleading
          obtain ⟨l₁, l₂, l₃, l₄, n, rfl, hn, htrailing', hc⟩ := readTrailing_eq_ok_iff.1 hrest
          rw [hc]
          exact ⟨['u', h₁, h₂, h₃, h₄, '\\', 'u', l₁, l₂, l₃, l₄], rfl,
            .pair hm hn hleading htrailing'⟩
        · rename_i hleading
          cases hrest
          exact ⟨['u', h₁, h₂, h₃, h₄], rfl,
            .code hm (Bool.eq_false_iff.2 hleading) (Bool.eq_false_iff.2 htrailing)⟩
    · rw [readEscape_mark hd] at h
      split at h
      · rename_i hstands
        cases h
        exact ⟨[d], rfl, .mark hstands⟩
      · cases h

/-- The rest of an escape is read behind its backslash. -/
theorem readEscape_of_charSays {piece : List Char} {c : Char} (h : CharSays ('\\' :: piece) c)
    (rest : List Char) : readEscape (piece ++ rest) = .ok (c, rest) := by
  cases h with
  | plain quote backslash control => exact absurd rfl backslash
  | @mark d _ hstands =>
    have hd : d ≠ 'u' := by
      rintro rfl
      cases hstands
    rw [List.singleton_append, readEscape_mark hd, hstands]
  | @code h₁ h₂ h₃ h₄ n hdigits hleading htrailing =>
    have hhex := readHex4_eq_ok_iff.2
      ⟨h₁, h₂, h₃, h₄, Eq.refl (h₁ :: h₂ :: h₃ :: h₄ :: rest), hdigits⟩
    simp only [List.cons_append, List.nil_append, readEscape, hhex, bind, Except.bind, hleading,
      htrailing, Bool.false_eq_true, if_false]
  | @pair h₁ h₂ h₃ h₄ l₁ l₂ l₃ l₄ m n hhigh hlow hleading htrailing =>
    have hpair : readTrailing m ('\\' :: 'u' :: l₁ :: l₂ :: l₃ :: l₄ :: rest) =
        .ok (joinHalves m n, rest) :=
      readTrailing_eq_ok_iff.2 ⟨l₁, l₂, l₃, l₄, n, rfl, hlow, htrailing, rfl⟩
    have hhex : readHex4 (h₁ :: h₂ :: h₃ :: h₄ :: '\\' :: 'u' :: l₁ :: l₂ :: l₃ :: l₄ :: rest) =
        .ok (m, '\\' :: 'u' :: l₁ :: l₂ :: l₃ :: l₄ :: rest) :=
      readHex4_eq_ok_iff.2 ⟨h₁, h₂, h₃, h₄, rfl, hhigh⟩
    -- no half is both a first and a second one
    have hother : isTrailing m = false := by
      simp only [isLeading, isTrailing, Bool.and_eq_true, decide_eq_true_eq] at hleading ⊢
      simp
      omega
    simp only [List.cons_append, List.nil_append, readEscape, hhex, bind, Except.bind, hleading,
      hother, Bool.false_eq_true, if_false, if_true]
    exact hpair

/-! ### Strings -/

theorem length_le_of_charsSay {text chars : List Char} (h : CharsSay text chars) :
    chars.length ≤ text.length := by
  induction h with
  | nil => exact Nat.le_refl _
  | @cons piece c text chars hfirst _ ih =>
    have hpiece : 1 ≤ piece.length := by cases hfirst <;> simp
    rw [List.length_cons, List.length_append]
    omega

/-- What has been read up to the closing quote is a text of the characters found. -/
theorem charsSay_of_readStringFrom {fuel : Nat} {read text rest : List Char} {s : String}
    (h : readStringFrom fuel read text = .ok (s, rest)) :
    ∃ inner chars, text = inner ++ '"' :: rest ∧ CharsSay inner chars ∧
      s = String.ofList (read.reverse ++ chars) := by
  induction fuel generalizing read text with
  | zero => cases h
  | succ fuel ih =>
    cases text with
    | nil => cases h
    | cons c text =>
      rw [readStringFrom] at h
      split at h
      · rename_i hquote
        cases h
        exact ⟨[], [], by rw [hquote]; rfl, .nil, by rw [List.append_nil]⟩
      rename_i hquote
      -- one character is read, and then the others
      have hcons : ∀ {piece after : List Char} {d : Char}, c :: text = piece ++ after →
          CharSays piece d → readStringFrom fuel (d :: read) after = .ok (s, rest) →
          ∃ inner chars, c :: text = inner ++ '"' :: rest ∧ CharsSay inner chars ∧
            s = String.ofList (read.reverse ++ chars) := by
        intro piece after d htext hpiece hafter
        obtain ⟨inner, chars, rfl, hchars, rfl⟩ := ih hafter
        exact ⟨piece ++ inner, d :: chars, by rw [htext, List.append_assoc], .cons hpiece hchars,
          by simp⟩
      split at h
      · rename_i hbackslash
        subst hbackslash
        obtain ⟨⟨d, after⟩, hescape, hafter⟩ := bind_eq_ok_iff.1 h
        obtain ⟨piece, rfl, hpiece⟩ := charSays_of_readEscape hescape
        exact hcons rfl hpiece hafter
      · rename_i hbackslash
        split at h
        · cases h
        · rename_i hcontrol
          have hplain := CharSays.plain hquote hbackslash (Nat.le_of_not_lt hcontrol)
          exact hcons List.singleton_append.symm hplain h

/-- A text of characters is read as these up to the closing quote. -/
theorem readStringFrom_of_charsSay {inner chars : List Char} (h : CharsSay inner chars) {fuel : Nat}
    (hfuel : chars.length < fuel) (read rest : List Char) :
    readStringFrom fuel read (inner ++ '"' :: rest) =
      .ok (String.ofList (read.reverse ++ chars), rest) := by
  induction h generalizing fuel read with
  | nil =>
    obtain ⟨fuel, rfl⟩ := Nat.exists_eq_add_one_of_ne_zero (Nat.ne_of_gt hfuel)
    simp [readStringFrom]
  | @cons piece c text chars hfirst hothers ih =>
    obtain ⟨fuel, rfl⟩ := Nat.exists_eq_add_one_of_ne_zero (Nat.ne_of_gt (Nat.lt_of_le_of_lt
      (Nat.zero_le _) hfuel))
    rw [List.length_cons] at hfuel
    have hrest : readStringFrom fuel (c :: read) (text ++ '"' :: rest) =
        .ok (String.ofList (read.reverse ++ c :: chars), rest) := by
      rw [ih (by omega)]
      simp
    rw [List.append_assoc, ← hrest]
    -- the first character of an escape is a backslash
    have hescape : ∀ {piece : List Char}, CharSays ('\\' :: piece) c →
        readStringFrom (fuel + 1) read ('\\' :: piece ++ (text ++ '"' :: rest)) =
          readStringFrom fuel (c :: read) (text ++ '"' :: rest) := by
      intro piece hpiece
      rw [List.cons_append, readStringFrom, if_neg (by decide), if_pos rfl,
        readEscape_of_charSays hpiece]
      rfl
    cases hfirst with
    | plain hquote hbackslash hcontrol =>
      rw [List.singleton_append, readStringFrom, if_neg hquote, if_neg hbackslash,
        if_neg (Nat.not_lt.2 hcontrol)]
    | mark hstands => exact hescape (.mark hstands)
    | code hdigits hleading htrailing => exact hescape (.code hdigits hleading htrailing)
    | pair hhigh hlow hleading htrailing => exact hescape (.pair hhigh hlow hleading htrailing)

/-- What has been read behind an opening quote is, with this quote, a text of the string found. -/
theorem stringSays_of_readString {fuel : Nat} {text rest : List Char} {s : String}
    (h : readString fuel text = .ok (s, rest)) :
    ∃ inner, '"' :: text = inner ++ rest ∧ StringSays inner s := by
  obtain ⟨inner, chars, rfl, hchars, rfl⟩ := charsSay_of_readStringFrom h
  refine ⟨'"' :: (inner ++ ['"']), by simp, inner, ?_, rfl⟩
  simpa using hchars

/-- A text of a string begins with a quote, behind which it is read as that string. -/
theorem readString_of_stringSays {text : List Char} {s : String} (h : StringSays text s)
    {fuel : Nat} (hfuel : text.length ≤ fuel) (rest : List Char) :
    ∃ after, text ++ rest = '"' :: after ∧ readString fuel after = .ok (s, rest) := by
  obtain ⟨inner, hinner, rfl⟩ := h
  have hlength := length_le_of_charsSay hinner
  rw [List.length_cons, List.length_append] at hfuel
  refine ⟨inner ++ '"' :: rest, by simp, ?_⟩
  rw [readString, readStringFrom_of_charsSay hinner (by omega)]
  simp

end TopicStream.Json
