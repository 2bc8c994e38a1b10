import Mathlib.Data.List.TakeWhile
import TopicStream.Proofs.Json.Unambiguity

/-!
# Numbers in JSON texts

A literal is an optional minus sign, digits without a leading zero, an optional fraction and an
optional exponent. The reader of numbers takes such a literal off a text and nothing else, and it
takes the same one whatever follows, unless that would continue the literal.

## Main results

* `readNumber_takes`: what the reader of numbers takes off a text;
* `readNumber_toDigits`: digits are read as the integer that they were written for.
-/

namespace TopicStream

/-- Whether an integer is one of those that are kept apart from floats. -/
def Number.InRange : Number → Prop
  | .integer i => -Nat.pow 2 63 ≤ i ∧ i < UInt64.size
  | .float _ => True

namespace Json

/-! ### Literals -/

/-- Digits, at least one. -/
def Digits (text : List Char) : Prop := text ≠ [] ∧ ∀ c ∈ text, c.isDigit = true

/-- The integer digits of a literal: a zero, or digits that do not begin with one. -/
inductive Whole : List Char → Prop where
  /-- A zero. -/
  | zero : Whole ['0']
  /-- Digits that do not begin with a zero. -/
  | digits {c : Char} {digits : List Char} (first : c ≠ '0') (all : Digits (c :: digits)) :
      Whole (c :: digits)

/-- The fraction of a literal, if it has one. -/
inductive Fraction : List Char → Prop where
  /-- None. -/
  | absent : Fraction []
  /-- A point and digits. -/
  | present {digits : List Char} (all : Digits digits) : Fraction ('.' :: digits)

/-- The digits of an exponent, with a sign if they have one. -/
inductive SignedDigits : List Char → Prop where
  /-- Digits without a sign. -/
  | unsigned {digits : List Char} (all : Digits digits) : SignedDigits digits
  /-- A sign and digits. -/
  | signed {c : Char} {digits : List Char} (sign : c = '+' ∨ c = '-') (all : Digits digits) :
      SignedDigits (c :: digits)

/-- The exponent of a literal, if it has one. -/
inductive Exponent : List Char → Prop where
  /-- None. -/
  | absent : Exponent []
  /-- A letter and digits. -/
  | present {c : Char} {digits : List Char} (letter : c = 'e' ∨ c = 'E')
      (all : SignedDigits digits) : Exponent (c :: digits)

/-- The digits of a fraction, and an exponent. -/
def AfterPoint (text : List Char) : Prop :=
  ∃ digits exponent, Digits digits ∧ Exponent exponent ∧ text = digits ++ exponent

/-- What follows the integer digits of a literal. -/
def AfterWhole (text : List Char) : Prop :=
  ∃ fraction exponent, Fraction fraction ∧ Exponent exponent ∧ text = fraction ++ exponent

/-- A literal after its sign. -/
def Literal (text : List Char) : Prop :=
  ∃ whole tail, Whole whole ∧ AfterWhole tail ∧ text = whole ++ tail

/-- Whether a text does not continue a literal that stands before it. -/
def endsLiteral : List Char → Bool
  | c :: _ => !(c.isDigit || c == '.' || c == 'e' || c == 'E')
  | [] => true

theorem endsLiteral_cons {c : Char} {text : List Char} :
    endsLiteral (c :: text) = true ↔ c.isDigit = false ∧ c ≠ '.' ∧ c ≠ 'e' ∧ c ≠ 'E' := by
  simp [endsLiteral, and_assoc]

theorem startsWithDigit_of_endsLiteral {text : List Char} (h : endsLiteral text = true) :
    startsWithDigit text = false := by
  cases text with
  | nil => rfl
  | cons c text => exact (endsLiteral_cons.1 h).1

theorem startsWithDigit_of_digits {digits : List Char} (h : Digits digits) (after : List Char) :
    startsWithDigit (digits ++ after) = true := by
  cases digits with
  | nil => exact absurd rfl h.1
  | cons c digits => exact h.2 c List.mem_cons_self

theorem startsWithDigit_of_exponent {exponent after : List Char} (h : Exponent exponent)
    (hafter : startsWithDigit after = false) : startsWithDigit (exponent ++ after) = false := by
  cases h with
  | absent => exact hafter
  | present hletter hall => rcases hletter with rfl | rfl <;> rfl

theorem startsWithDigit_of_afterWhole {tail after : List Char} (h : AfterWhole tail)
    (hafter : startsWithDigit after = false) : startsWithDigit (tail ++ after) = false := by
  obtain ⟨fraction, exponent, hfraction, hexponent, rfl⟩ := h
  cases hfraction with
  | absent => exact startsWithDigit_of_exponent hexponent hafter
  | present hall => rfl

theorem startsWithDigit_dropWhile (text : List Char) :
    startsWithDigit (text.dropWhile Char.isDigit) = false := by
  induction text with
  | nil => rfl
  | cons c text ih =>
    by_cases hc : c.isDigit = true
    · rw [List.dropWhile_cons_of_pos hc, ih]
    · rw [List.dropWhile_cons_of_neg hc]
      simpa [startsWithDigit] using hc

theorem dropWhile_isDigit {digits after : List Char} (h : ∀ c ∈ digits, c.isDigit = true)
    (hafter : startsWithDigit after = false) :
    (digits ++ after).dropWhile Char.isDigit = after := by
  rw [List.dropWhile_append_of_pos h]
  cases after with
  | nil => rfl
  | cons c after =>
    rw [startsWithDigit] at hafter
    exact List.dropWhile_cons_of_neg (by simp [hafter])

/-! ### Runs of digits -/

theorem gather_of_not_startsWithDigit (limit soFar : Nat) {after : List Char}
    (h : startsWithDigit after = false) : gather limit soFar after = (soFar, after) := by
  cases after with
  | nil => rfl
  | cons c after =>
    rw [startsWithDigit] at h
    simp [gather, h]

/-- A text is a run of digits, of which the first are gathered, and a rest. The same digits are
gathered whatever the rest is. -/
theorem gather_split (limit soFar : Nat) (text : List Char) :
    ∃ taken more rest, text = taken ++ (more ++ rest) ∧ (∀ c ∈ taken, c.isDigit = true) ∧
      (∀ c ∈ more, c.isDigit = true) ∧ startsWithDigit rest = false ∧
      ∃ n, (soFar < limit → n < limit) ∧ ∀ after, startsWithDigit after = false →
        gather limit soFar (taken ++ (more ++ after)) = (n, more ++ after) := by
  induction text generalizing soFar with
  | nil =>
    exact ⟨[], [], [], rfl, nofun, nofun, rfl, soFar, id,
      fun after hafter => gather_of_not_startsWithDigit limit soFar hafter⟩
  | cons c text ih =>
    by_cases hc : c.isDigit = true
    · by_cases hlt : soFar * 10 + digitValue c < limit
      · obtain ⟨taken, more, rest, rfl, htaken, hmore, hrest, n, hn, hgather⟩ :=
          ih (soFar * 10 + digitValue c)
        refine ⟨c :: taken, more, rest, rfl, List.forall_mem_cons.2 ⟨hc, htaken⟩, hmore, hrest, n,
          fun _ => hn hlt, fun after hafter => ?_⟩
        rw [List.cons_append, gather, if_pos (by simp [hc, hlt]), hgather after hafter]
      · -- no further digit fits
        refine ⟨[], (c :: text).takeWhile Char.isDigit, (c :: text).dropWhile Char.isDigit,
          List.takeWhile_append_dropWhile.symm, nofun, fun d hd => List.mem_takeWhile_imp hd,
          startsWithDigit_dropWhile _, soFar, id, fun after hafter => ?_⟩
        rw [List.takeWhile_cons_of_pos hc]
        simp [gather, hlt]
    · have hstop : startsWithDigit (c :: text) = false := by simpa [startsWithDigit] using hc
      exact ⟨[], [], c :: text, rfl, nofun, nofun, hstop, soFar, id,
        fun after hafter => gather_of_not_startsWithDigit limit soFar hafter⟩

/-- Digits that fit are gathered. -/
theorem gather_digits (limit : Nat) {soFar : Nat} {digits after : List Char}
    (h : ∀ c ∈ digits, c.isDigit = true) (hlt : Nat.ofDigitChars 10 digits soFar < limit)
    (hafter : startsWithDigit after = false) :
    gather limit soFar (digits ++ after) = (Nat.ofDigitChars 10 digits soFar, after) := by
  have hgrow : ∀ (digits : List Char) (n : Nat), n ≤ Nat.ofDigitChars 10 digits n := by
    intro digits
    induction digits with
    | nil => exact fun n => Nat.le_refl n
    | cons c digits ih =>
      intro n
      rw [Nat.ofDigitChars_cons]
      exact Nat.le_trans (by omega) (ih _)
  induction digits generalizing soFar with
  | nil => exact gather_of_not_startsWithDigit limit soFar hafter
  | cons c digits ih =>
    obtain ⟨hc, hdigits⟩ := List.forall_mem_cons.1 h
    have hnext : 10 * soFar + (c.toNat - '0'.toNat) = soFar * 10 + digitValue c := by
      rw [Nat.mul_comm, digitValue]
      rfl
    rw [Nat.ofDigitChars_cons, hnext] at hlt ⊢
    rw [List.cons_append, gather, if_pos (by simp [hc]; exact Nat.lt_of_le_of_lt (hgrow _ _) hlt),
      ih hdigits hlt]

/-! ### What readers take -/

/-- A reader takes texts of a shape off a text, and reads such a text in the same way whatever
follows, unless that continues a literal. -/
def Takes (shape : List Char → Prop) (f : Reader Number) : Prop :=
  ∀ text n rest, f text = .ok (n, rest) → n.InRange ∧ ∃ used, text = used ++ rest ∧ shape used ∧
    ∀ after, endsLiteral after = true → f (used ++ after) = .ok (n, after)

section Takes

variable (negative : Bool) (significand : Nat) (exponent : Int)

/-- A float ends where its digits do. -/
theorem finishFloat_takes : Takes (· = []) (finishFloat negative significand exponent) := by
  intro text n rest h
  unfold finishFloat at h ⊢
  split at h
  · rename_i place hplace
    cases h
    exact ⟨trivial, [], rfl, rfl, fun after _ => rfl⟩
  · cases h

theorem readExponentDigits_takes (shrinks : Bool) :
    Takes Digits (readExponentDigits negative significand exponent shrinks) := by
  intro text n rest h
  cases text with
  | nil => cases h
  | cons c text =>
    by_cases hc : c.isDigit = true
    · obtain ⟨taken, more, rest', rfl, htaken, hmore, hrest', m, -, hgather⟩ :=
        gather_split exponentLimit (digitValue c) text
      have hdigits : Digits (c :: (taken ++ more)) := ⟨List.cons_ne_nil _ _,
        List.forall_mem_cons.2 ⟨hc, List.forall_mem_append.2 ⟨htaken, hmore⟩⟩⟩
      rw [readExponentDigits, if_pos hc, hgather _ hrest'] at h
      by_cases hnil : more = []
      · subst hnil
        simp only [List.nil_append, hrest', Bool.false_eq_true, if_false] at h
        obtain ⟨hn, used, hused, rfl, hagain⟩ := finishFloat_takes _ _ _ _ _ _ h
        refine ⟨hn, c :: (taken ++ []), ?_, hdigits, fun after hafter => ?_⟩
        · rw [hused]
          simp
        · have hstop := startsWithDigit_of_endsLiteral hafter
          have hgathered := hgather after hstop
          simp only [List.nil_append] at hgathered
          rw [List.append_nil, List.cons_append, readExponentDigits, if_pos hc, hgathered]
          simp only [hstop, Bool.false_eq_true, if_false]
          exact hagain after hafter
      · -- an exponent too large counts if the number is not zero and it grows
        have hmoreDigits : Digits more := ⟨hnil, hmore⟩
        simp only [startsWithDigit_of_digits hmoreDigits, if_true,
          dropWhile_isDigit hmore hrest'] at h
        split at h
        · cases h
        · rename_i hsmall
          cases h
          refine ⟨trivial, c :: (taken ++ more), by simp, hdigits, fun after hafter => ?_⟩
          have hstop := startsWithDigit_of_endsLiteral hafter
          rw [List.cons_append, List.append_assoc, readExponentDigits, if_pos hc,
            hgather after hstop]
          simp only [startsWithDigit_of_digits hmoreDigits, if_true, if_neg hsmall,
            dropWhile_isDigit hmore hstop]
    · rw [readExponentDigits, if_neg hc] at h
      cases h

theorem readExponent_takes :
    Takes SignedDigits (readExponent negative significand exponent) := by
  intro text n rest h
  unfold readExponent at h
  split at h
  · obtain ⟨hn, used, rfl, hused, hagain⟩ := readExponentDigits_takes _ _ _ _ _ _ _ h
    exact ⟨hn, '+' :: used, rfl, .signed (.inl rfl) hused, hagain⟩
  · obtain ⟨hn, used, rfl, hused, hagain⟩ := readExponentDigits_takes _ _ _ _ _ _ _ h
    exact ⟨hn, '-' :: used, rfl, .signed (.inr rfl) hused, hagain⟩
  · obtain ⟨hn, used, rfl, hused, hagain⟩ := readExponentDigits_takes _ _ _ _ _ _ _ h
    refine ⟨hn, used, rfl, .unsigned hused, fun after hafter => ?_⟩
    -- a digit is no sign
    obtain ⟨c, digits, rfl⟩ := List.exists_cons_of_ne_nil hused.1
    have hc : c.isDigit = true := hused.2 c List.mem_cons_self
    rw [← hagain after hafter]
    unfold readExponent
    split
    · simp_all
    · simp_all
    · rfl

theorem readAfterDigits_takes :
    Takes Exponent (readAfterDigits negative significand exponent) := by
  intro text n rest h
  have hplain : finishFloat negative significand exponent text = .ok (n, rest) →
      n.InRange ∧ ∃ used, text = used ++ rest ∧ Exponent used ∧ ∀ after, endsLiteral after = true →
        readAfterDigits negative significand exponent (used ++ after) = .ok (n, after) := by
    intro h
    obtain ⟨hn, used, rfl, rfl, hagain⟩ := finishFloat_takes _ _ _ _ _ _ h
    refine ⟨hn, [], rfl, .absent, fun after hafter => ?_⟩
    rw [List.nil_append, ← hagain after hafter]
    cases after with
    | nil => rfl
    | cons c after =>
      obtain ⟨-, -, he, hE⟩ := endsLiteral_cons.1 hafter
      simp [readAfterDigits, he, hE]
  cases text with
  | nil => exact hplain h
  | cons c text =>
    rw [readAfterDigits] at h
    split at h
    · rename_i hc
      obtain ⟨hn, used, rfl, hused, hagain⟩ := readExponent_takes _ _ _ _ _ _ h
      refine ⟨hn, c :: used, rfl, .present hc hused, fun after hafter => ?_⟩
      rw [List.cons_append, readAfterDigits, if_pos hc, hagain after hafter]
    · exact hplain h

theorem readFraction_takes :
    Takes AfterPoint (readFraction negative significand exponent) := by
  intro text n rest h
  obtain ⟨taken, more, rest', rfl, htaken, hmore, hrest', m, -, hgather⟩ :=
    gather_split significandLimit significand text
  have hall : ∀ c ∈ taken ++ more, c.isDigit = true := List.forall_mem_append.2 ⟨htaken, hmore⟩
  -- what is left after the digits decides, whatever it is
  have hread : ∀ after, startsWithDigit after = false → taken ++ more ≠ [] →
      readFraction negative significand exponent (taken ++ (more ++ after)) =
        readAfterDigits negative m (exponent - taken.length) after := by
    intro after hafter hne
    have hcount : (taken ++ (more ++ after)).length - (more ++ after).length = taken.length := by
      simp
    simp only [readFraction, hgather after hafter, hcount]
    by_cases hnil : more = []
    · subst hnil
      have htakenNe : taken.length ≠ 0 := by simpa using hne
      simp [hafter, htakenNe]
    · simp [startsWithDigit_of_digits ⟨hnil, hmore⟩, dropWhile_isDigit hmore hafter]
  by_cases hne : taken ++ more = []
  · obtain ⟨rfl, rfl⟩ := List.append_eq_nil_iff.1 hne
    have hgathered := hgather rest' hrest'
    simp only [List.nil_append] at h hgathered
    simp only [readFraction, hgathered, hrest', Nat.sub_self] at h
    cases rest' <;> simp at h
  · rw [hread _ hrest' hne] at h
    obtain ⟨hn, used, rfl, hused, hagain⟩ := readAfterDigits_takes _ _ _ _ _ _ h
    refine ⟨hn, taken ++ more ++ used, by simp, ⟨taken ++ more, used, ⟨hne, hall⟩, hused, rfl⟩,
      fun after hafter => ?_⟩
    have hstop := startsWithDigit_of_exponent hused (startsWithDigit_of_endsLiteral hafter)
    rw [List.append_assoc, List.append_assoc, hread _ hstop hne, hagain after hafter]

/-- A fraction may follow integer digits, and an exponent may follow these too. -/
theorem afterWhole_of_fraction {f : Reader Number}
    (hpoint : ∀ text, f ('.' :: text) = readFraction negative significand exponent text)
    {text rest : List Char} {n : Number} (h : f ('.' :: text) = .ok (n, rest)) :
    n.InRange ∧ ∃ used, '.' :: text = used ++ rest ∧ AfterWhole used ∧
      ∀ after, endsLiteral after = true → f (used ++ after) = .ok (n, after) := by
  rw [hpoint] at h
  obtain ⟨hn, used, rfl, ⟨digits, tail, hdigits, htail, rfl⟩, hagain⟩ :=
    readFraction_takes _ _ _ _ _ _ h
  refine ⟨hn, '.' :: (digits ++ tail), rfl, ⟨_, _, .present hdigits, htail, rfl⟩,
    fun after hafter => ?_⟩
  rw [List.cons_append, hpoint, hagain after hafter]

/-- A number may end with its integer digits. -/
theorem readAfterInteger_of_endsLiteral {after : List Char} (h : endsLiteral after = true) :
    readAfterInteger negative significand after =
      .ok (integerOrFloat negative significand, after) := by
  cases after with
  | nil => rfl
  | cons c after =>
    obtain ⟨-, hpoint, he, hE⟩ := endsLiteral_cons.1 h
    rw [readAfterInteger, if_neg (by simp [he, hE])]
    exact hpoint

theorem readAfterInteger_takes (hlt : significand < significandLimit) :
    Takes AfterWhole (readAfterInteger negative significand) := by
  intro text n rest h
  have hrange : (integerOrFloat negative significand).InRange := by
    have hlimit : significandLimit = UInt64.size := rfl
    unfold integerOrFloat
    split
    · split
      · trivial
      · rw [Number.InRange]
        omega
    · rw [Number.InRange]
      omega
  unfold readAfterInteger at h
  split at h
  · exact afterWhole_of_fraction negative significand 0 (fun _ => rfl) h
  · rename_i c text hpoint
    split at h
    · rename_i hc
      obtain ⟨hn, used, rfl, hused, hagain⟩ := readExponent_takes _ _ _ _ _ _ h
      refine ⟨hn, c :: used, rfl, ⟨[], _, .absent, .present hc hused, rfl⟩,
        fun after hafter => ?_⟩
      rw [List.cons_append, readAfterInteger, if_pos hc, hagain after hafter]
      exact hpoint
    · cases h
      exact ⟨hrange, [], rfl, ⟨[], [], .absent, .absent, rfl⟩,
        fun _ => readAfterInteger_of_endsLiteral negative significand⟩
  · cases h
    exact ⟨hrange, [], rfl, ⟨[], [], .absent, .absent, rfl⟩,
      fun _ => readAfterInteger_of_endsLiteral negative significand⟩

theorem readAfterLongInteger_takes (dropped : Nat) :
    Takes AfterWhole (readAfterLongInteger negative significand dropped) := by
  intro text n rest h
  by_cases hpoint : ∃ text', text = '.' :: text'
  · obtain ⟨text', rfl⟩ := hpoint
    exact afterWhole_of_fraction negative significand dropped (fun _ => rfl) h
  · have hdigits : ∀ text, (∀ text', text ≠ '.' :: text') →
        readAfterLongInteger negative significand dropped text =
          readAfterDigits negative significand dropped text := by
      intro text hne
      unfold readAfterLongInteger
      split
      · exact absurd rfl (hne _)
      · rfl
    rw [hdigits text fun text' heq => hpoint ⟨text', heq⟩] at h
    obtain ⟨hn, used, rfl, hused, hagain⟩ := readAfterDigits_takes _ _ _ _ _ _ h
    refine ⟨hn, used, rfl, ⟨[], _, .absent, hused, rfl⟩, fun after hafter => ?_⟩
    rw [hdigits, hagain after hafter]
    intro text' heq
    -- neither an exponent nor what ends a literal begins with a point
    cases hused with
    | absent =>
      obtain rfl : after = '.' :: text' := heq
      cases hafter
    | present hletter hall =>
      rcases hletter with rfl | rfl <;> simp at heq

/-- Which reader goes on behind digits depends on whether all of them fit. -/
theorem exists_reader_of_digits {c : Char} (hzero : c ≠ '0') (hc : c.isDigit = true)
    {taken more : List Char} (hmore : ∀ c ∈ more, c.isDigit = true) {m : Nat}
    (hlt : m < significandLimit) (hgather : ∀ after, startsWithDigit after = false →
      gather significandLimit (digitValue c) (taken ++ (more ++ after)) = (m, more ++ after)) :
    ∃ next : Reader Number, Takes AfterWhole next ∧ ∀ after, startsWithDigit after = false →
      readNumber negative (c :: (taken ++ more) ++ after) = next after := by
  have hread : ∀ after, startsWithDigit after = false →
      readNumber negative (c :: (taken ++ more) ++ after) =
        if startsWithDigit (more ++ after) then
          readAfterLongInteger negative m
            ((more ++ after).length - ((more ++ after).dropWhile Char.isDigit).length)
            ((more ++ after).dropWhile Char.isDigit)
        else readAfterInteger negative m (more ++ after) := by
    intro after hafter
    rw [List.cons_append, List.append_assoc, readNumber, if_neg hzero, if_pos hc,
      hgather after hafter]
  by_cases hnil : more = []
  · subst hnil
    refine ⟨_, readAfterInteger_takes negative m hlt, fun after hafter => ?_⟩
    rw [hread after hafter, List.nil_append, hafter, if_neg Bool.false_ne_true]
  · refine ⟨_, readAfterLongInteger_takes negative m more.length, fun after hafter => ?_⟩
    rw [hread after hafter, startsWithDigit_of_digits ⟨hnil, hmore⟩, if_pos rfl,
      dropWhile_isDigit hmore hafter, List.length_append, Nat.add_sub_cancel]

/-- A number begins with integer digits, which settle how the reader of numbers goes on. -/
theorem exists_reader_of_readNumber {text : List Char} {x : Number × List Char}
    (h : readNumber negative text = .ok x) :
    ∃ whole after next, text = whole ++ after ∧ Whole whole ∧ startsWithDigit after = false ∧
      Takes AfterWhole next ∧ ∀ after, startsWithDigit after = false →
        readNumber negative (whole ++ after) = next after := by
  cases text with
  | nil => cases h
  | cons c text =>
    by_cases hzero : c = '0'
    · subst hzero
      rw [readNumber, if_pos rfl] at h
      split at h
      · cases h
      · rename_i hstop
        refine ⟨['0'], text, _, rfl, .zero, Bool.eq_false_iff.2 hstop,
          readAfterInteger_takes negative 0 (by decide), fun after hafter => ?_⟩
        rw [List.singleton_append, readNumber, if_pos rfl, hafter, if_neg Bool.false_ne_true]
    by_cases hc : c.isDigit = true
    · obtain ⟨taken, more, rest, rfl, htaken, hmore, hrest, m, hm, hgather⟩ :=
        gather_split significandLimit (digitValue c) text
      have hwhole : Whole (c :: (taken ++ more)) := .digits hzero ⟨List.cons_ne_nil _ _,
        List.forall_mem_cons.2 ⟨hc, List.forall_mem_append.2 ⟨htaken, hmore⟩⟩⟩
      have hlt : m < significandLimit := by
        refine hm (Nat.lt_of_le_of_lt (?_ : _ ≤ 9) (by decide))
        have hnine := (Char.isDigit_iff_toNat.1 hc).2
        change c.toNat - 0x30 ≤ 9
        change c.toNat ≤ 0x39 at hnine
        omega
      obtain ⟨next, hnext, hread⟩ := exists_reader_of_digits negative hzero hc hmore hlt hgather
      exact ⟨_, rest, next, by simp, hwhole, hrest, hnext, hread⟩
    · rw [readNumber, if_neg hzero, if_neg hc] at h
      cases h

/-- The reader of numbers takes a literal. -/
theorem readNumber_takes : Takes Literal (readNumber negative) := by
  intro text n rest h
  obtain ⟨whole, tail, next, rfl, hwhole, htail, hnext, hread⟩ :=
    exists_reader_of_readNumber negative h
  rw [hread tail htail] at h
  obtain ⟨hn, used, rfl, hused, hagain⟩ := hnext _ _ _ h
  refine ⟨hn, whole ++ used, (List.append_assoc ..).symm, ⟨_, _, hwhole, hused, rfl⟩,
    fun after hafter => ?_⟩
  -- what follows the digits is no digit, since neither the tail nor what ends a literal begins so
  have hstop := startsWithDigit_of_afterWhole hused (startsWithDigit_of_endsLiteral hafter)
  rw [List.append_assoc, hread _ hstop, hagain after hafter]

end Takes

/-! ### Integers -/

/-- Only zero is written with a zero in front. -/
theorem toDigits_eq_zero_cons {n : Nat} {digits : List Char}
    (h : Nat.toDigits 10 n = '0' :: digits) : n = 0 := by
  induction n using Nat.strongRecOn generalizing digits with
  | ind n ih =>
    rw [Nat.toDigits_eq_if (by decide)] at h
    split at h
    · rename_i hlt
      have hdigit : ∀ m, m < 10 → m.digitChar = '0' → m = 0 := by decide
      exact hdigit n hlt (List.cons.inj h).1
    · rename_i hge
      obtain ⟨c, before, hbefore, -⟩ := Number.exists_toDigits_eq_cons (n / 10)
      rw [hbefore] at h
      obtain rfl : c = '0' := (List.cons.inj h).1
      have := ih (n / 10) (by omega) hbefore
      omega

/-- The digits of an integer are read as that integer. -/
theorem readNumber_toDigits (negative : Bool) {n : Nat} (hn : n < significandLimit)
    {after : List Char} (hafter : endsLiteral after = true) :
    readNumber negative (Nat.toDigits 10 n ++ after) = .ok (integerOrFloat negative n, after) := by
  have hstop := startsWithDigit_of_endsLiteral hafter
  obtain ⟨c, digits, hdigits, hc⟩ := Number.exists_toDigits_eq_cons n
  by_cases hzero : c = '0'
  · subst hzero
    obtain rfl := toDigits_eq_zero_cons hdigits
    rw [show Nat.toDigits 10 0 = ['0'] from rfl, List.singleton_append, readNumber, if_pos rfl,
      hstop, if_neg Bool.false_ne_true, readAfterInteger_of_endsLiteral _ _ hafter]
  · have hall : ∀ d ∈ digits, d.isDigit = true := fun d hd =>
      Nat.isDigit_of_mem_toDigits (by decide) (by decide) (hdigits ▸ List.mem_cons_of_mem c hd)
    -- the digits behind the first one are gathered into what this begins
    have hvalue : Nat.ofDigitChars 10 digits (digitValue c) = n := by
      have hparsed := Nat.ofDigitChars_ten_toDigits (n := n)
      rw [hdigits, Nat.ofDigitChars_cons, Nat.mul_zero, Nat.zero_add] at hparsed
      exact hparsed
    have hgathered := gather_digits significandLimit hall (hvalue ▸ hn) hstop
    rw [hdigits, List.cons_append, readNumber, if_neg hzero, if_pos hc, hgathered, hvalue]
    simp only [hstop, Bool.false_eq_true, if_false]
    exact readAfterInteger_of_endsLiteral _ _ hafter

/-- The text of an integer in range is a literal with an optional sign, read as that integer. -/
theorem readNumber_integerText {i : Int} (hi : (Number.integer i).InRange) :
    ∃ negative literal, Number.integerText i = (if negative then '-' :: literal else literal) ∧
      ∀ after, endsLiteral after = true →
        readNumber negative (literal ++ after) = .ok (.integer i, after) := by
  obtain ⟨hlow, hhigh⟩ := hi
  have hlimit : significandLimit = UInt64.size := rfl
  have hlt : Nat.pow 2 63 < UInt64.size := by decide
  unfold Number.integerText
  split
  · refine ⟨true, _, (if_pos rfl).symm, fun after hafter => ?_⟩
    rw [readNumber_toDigits true (by omega) hafter, integerOrFloat, if_pos rfl, if_neg (by omega),
      show -(i.natAbs : Int) = i by omega]
  · refine ⟨false, _, (if_neg Bool.false_ne_true).symm, fun after hafter => ?_⟩
    rw [readNumber_toDigits false (by omega) hafter, integerOrFloat, if_neg Bool.false_ne_true,
      show (i.natAbs : Int) = i by omega]

end Json

end TopicStream
