import TopicStream.Json.Printer
import TopicStream.Proofs.Json.Strings

/-!
# Quoted strings read back

The quoted form of a string is one of its texts (`stringSays_quote`), so that it is read as that
string, and a text begins with the quoted form of at most one string (`quote_append_inj`).
-/

namespace TopicStream.Json

/-- An escape of four digits stands for the character with that code point. -/
theorem hexValue4?_control {n : Nat} (hn : n < 0x20) :
    hexValue4? '0' '0' (Text.Hex.lower (n / 16)) (Text.Hex.lower (n % 16)) = some n := by
  have hzero : Text.Hex.value? '0' = some 0 := by decide
  simp only [hexValue4?, hzero, Text.Hex.value?_lower _ (show n / 16 < 16 by omega),
    Text.Hex.value?_lower _ (show n % 16 < 16 by omega), Option.bind_eq_bind, Option.bind_some]
  congr 1
  omega

/-- A character inside a string is written as the grammar has it. -/
theorem charSays_escapeChar (c : Char) : CharSays (escapeChar c) c := by
  unfold escapeChar
  by_cases h1 : c = '"'
  · subst h1
    exact .mark rfl
  by_cases h2 : c = '\\'
  · subst h2
    exact .mark rfl
  by_cases h3 : c = '\n'
  · subst h3
    exact .mark rfl
  by_cases h4 : c = '\r'
  · subst h4
    exact .mark rfl
  by_cases h5 : c = '\t'
  · subst h5
    exact .mark rfl
  by_cases h6 : c.toNat = 8
  · obtain rfl : Char.ofNat 8 = c := by rw [← h6, Char.ofNat_toNat]
    exact .mark rfl
  by_cases h7 : c.toNat = 12
  · obtain rfl : Char.ofNat 12 = c := by rw [← h7, Char.ofNat_toNat]
    exact .mark rfl
  by_cases h8 : c.toNat < 0x20
  · -- neither half of a surrogate pair
    have htrailing : isTrailing c.toNat = false := by simp [isTrailing]; omega
    have hleading : isLeading c.toNat = false := by simp [isLeading]; omega
    have hcode := CharSays.code (hexValue4?_control h8) hleading htrailing
    rw [Char.ofNat_toNat] at hcode
    simpa only [h1, h2, h3, h4, h5, h6, h7, h8, if_true, if_false] using hcode
  · simpa only [h1, h2, h3, h4, h5, h6, h7, h8, if_false] using
      CharSays.plain h1 h2 (Nat.le_of_not_lt h8)

/-- The quoted form of a string is a text of it. -/
theorem stringSays_quote (s : String) : StringSays (quote s) s := by
  refine ⟨s.toList.flatMap escapeChar, ?_, rfl⟩
  induction s.toList with
  | nil => exact .nil
  | cons c chars ih => exact .cons (charSays_escapeChar c) ih

/-- A text begins with the quoted form of at most one string. -/
theorem quote_append_inj {s s' : String} {rest rest' : List Char}
    (h : quote s ++ rest = quote s' ++ rest') : s = s' ∧ rest = rest' := by
  have hfuel : (quote s).length ≤ (quote s).length + (quote s').length := Nat.le_add_right ..
  have hfuel' : (quote s').length ≤ (quote s).length + (quote s').length := Nat.le_add_left ..
  obtain ⟨text, htext, hread⟩ := readString_of_stringSays (stringSays_quote s) hfuel rest
  obtain ⟨text', htext', hread'⟩ := readString_of_stringSays (stringSays_quote s') hfuel' rest'
  -- what the reader finds in the one text, it finds in the other
  obtain rfl : text = text' := List.cons_inj_right _ |>.1 (htext.symm.trans (h.trans htext'))
  rw [hread, Except.ok.injEq, Prod.mk.injEq] at hread'
  exact hread'

end TopicStream.Json
