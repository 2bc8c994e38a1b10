import Mathlib.Tactic.NormNum
import TopicStream.Credential.Store
import TopicStream.Proofs.Json.Reading
import TopicStream.Proofs.Number.Binary64
import TopicStream.Proofs.Text.Base64

/-!
# Which tokens are valid

A token is taken apart at its dots, its middle part is read as base64, the bytes as UTF-8 and the
text as a JSON value. Each of these steps succeeds for exactly the texts that its inverse writes, so
that the claims of a token are known from its parts, and with them when the token is valid.

## Main results

* `claims?_ofParts`: the claims of a token are what the text of its middle part says;
* `isValid_of_claims`: a token is valid before the end that its claims give;
* `validity_exact`: which tokens are valid, and when.
-/

namespace TopicStream.Credential

/-! ### Parts -/

/-- The token with the given parts. -/
def ofParts (header middle signature : List Char) : String :=
  String.ofList (header ++ '.' :: (middle ++ '.' :: signature))

theorem cutAtDot_eq_some_iff {text before rest : List Char} :
    cutAtDot text = some (before, rest) ↔ text = before ++ '.' :: rest ∧ '.' ∉ before := by
  constructor
  · intro h
    cases hdrop : text.dropWhile (· != '.') with
    | nil =>
      rw [cutAtDot, hdrop] at h
      cases h
    | cons c after =>
      rw [cutAtDot, hdrop] at h
      cases h
      have hdot := List.head?_dropWhile_not (· != '.') text
      rw [hdrop] at hdot
      obtain rfl : c = '.' := by simpa using hdot
      refine ⟨by rw [← hdrop, List.takeWhile_append_dropWhile], fun hmem => ?_⟩
      simpa using List.mem_takeWhile_imp hmem
  · rintro ⟨rfl, hbefore⟩
    have hother : ∀ c ∈ before, (c != '.') = true := fun c hc =>
      bne_iff_ne.2 fun heq => hbefore (heq ▸ hc)
    unfold cutAtDot
    rw [List.dropWhile_append_of_pos hother, List.takeWhile_append_of_pos hother]
    simp

/-- The middle part is what stands between the only two dots. -/
theorem middlePart?_eq_some_iff {token middle : List Char} :
    middlePart? token = some middle ↔
      ∃ header signature, token = header ++ '.' :: (middle ++ '.' :: signature) ∧
        '.' ∉ header ∧ '.' ∉ middle ∧ '.' ∉ signature := by
  unfold middlePart?
  simp only [Option.bind_eq_bind, Option.bind_eq_some_iff, Prod.exists]
  constructor
  · rintro ⟨header, rest, hrest, middle', signature, hsignature, hmiddle⟩
    split at hmiddle
    · cases hmiddle
    rename_i hnot
    cases hmiddle
    obtain ⟨rfl, hheader⟩ := cutAtDot_eq_some_iff.1 hrest
    obtain ⟨rfl, hmiddle⟩ := cutAtDot_eq_some_iff.1 hsignature
    exact ⟨header, signature, rfl, hheader, hmiddle, by simpa using hnot⟩
  · rintro ⟨header, signature, rfl, hheader, hmiddle, hsignature⟩
    exact ⟨header, _, cutAtDot_eq_some_iff.2 ⟨rfl, hheader⟩, middle, signature,
      cutAtDot_eq_some_iff.2 ⟨rfl, hmiddle⟩, if_neg (by simpa using hsignature)⟩

theorem count_dot_of_middlePart? {token middle : List Char} (h : middlePart? token = some middle) :
    token.count '.' = 2 := by
  obtain ⟨header, signature, rfl, hheader, hmiddle, hsignature⟩ := middlePart?_eq_some_iff.1 h
  simp [List.count_eq_zero.2 hheader, List.count_eq_zero.2 hmiddle,
    List.count_eq_zero.2 hsignature]

/-- The middle part is found if no part holds a dot. -/
theorem middlePart?_ofParts {header middle signature found : List Char} :
    middlePart? (ofParts header middle signature).toList = some found ↔
      ('.' ∉ header ∧ '.' ∉ middle ∧ '.' ∉ signature) ∧ found = middle := by
  have htoken : (ofParts header middle signature).toList =
      header ++ '.' :: (middle ++ '.' :: signature) := String.toList_ofList
  constructor
  · intro h
    -- there are no dots but those between the parts
    have hcount := count_dot_of_middlePart? h
    simp only [htoken, List.count_append, List.count_cons_self] at hcount
    have hparts : '.' ∉ header ∧ '.' ∉ middle ∧ '.' ∉ signature :=
      ⟨List.count_eq_zero.1 (by omega), List.count_eq_zero.1 (by omega),
        List.count_eq_zero.1 (by omega)⟩
    have hmiddle := middlePart?_eq_some_iff.2 ⟨header, signature, htoken, hparts⟩
    exact ⟨hparts, Option.some.inj (h.symm.trans hmiddle)⟩
  · rintro ⟨hparts, rfl⟩
    exact middlePart?_eq_some_iff.2 ⟨header, signature, htoken, hparts⟩

/-- Padding is dropped behind a text that holds none. -/
theorem dropPadding_append {text : List Char} (h : '=' ∉ text) (k : Nat) :
    dropPadding (text ++ List.replicate k '=') = text := by
  have hpadding : ∀ c ∈ List.replicate k '=', (c == '=') = true := fun c hc =>
    beq_iff_eq.2 (List.eq_of_mem_replicate hc)
  have hstop : text.reverse.dropWhile (· == '=') = text.reverse := by
    cases hreverse : text.reverse with
    | nil => rfl
    | cons c rest =>
      have hc : c ∈ text := List.mem_reverse.1 (hreverse ▸ List.mem_cons_self)
      exact List.dropWhile_cons_of_neg (by simpa using fun heq : c = '=' => h (heq ▸ hc))
  rw [dropPadding, List.reverse_append, List.reverse_replicate,
    List.dropWhile_append_of_pos hpadding, hstop, List.reverse_reverse]

/-- What is dropped is padding. -/
theorem exists_eq_dropPadding_append (text : List Char) :
    ∃ k, text = dropPadding text ++ List.replicate k '=' := by
  obtain ⟨k, hk⟩ : ∃ k, text.reverse.takeWhile (· == '=') = List.replicate k '=' :=
    ⟨_, List.eq_replicate_of_mem fun c hc => by simpa using List.mem_takeWhile_imp hc⟩
  have hsplit : text.reverse = List.replicate k '=' ++ text.reverse.dropWhile (· == '=') := by
    rw [← hk, List.takeWhile_append_dropWhile]
  refine ⟨k, ?_⟩
  rw [dropPadding, ← List.reverse_replicate, ← List.reverse_append, ← hsplit,
    List.reverse_reverse]

/-! ### Claims -/

/-- Bytes are read as a value exactly if they are the UTF-8 form of a text that says it. -/
theorem parseBytes?_eq_some_iff {bytes : Bytes} {v : Json} :
    Json.parseBytes? bytes = some v ↔
      ∃ text, bytes = Text.Utf8.encode text ∧ Json.TextSays Json.maxDepth text v := by
  unfold Json.parseBytes?
  simp only [Option.bind_eq_bind, Option.bind_eq_some_iff, Text.Utf8.decode?_eq_some_iff,
    Json.toOption_eq_some_iff, Json.parseChars_eq_ok_iff]

/-- The claims of a token are what the text of its middle part says. -/
theorem claims?_ofParts {header middle signature : List Char} {v : Json} :
    claims? (ofParts header middle signature).toList = some v ↔
      ('.' ∉ header ∧ '.' ∉ middle ∧ '.' ∉ signature) ∧
        ∃ text, dropPadding middle = Text.Base64.encode (Text.Utf8.encode text) ∧
          Json.TextSays Json.maxDepth text v := by
  unfold claims?
  simp only [Option.bind_eq_bind, Option.bind_eq_some_iff, middlePart?_ofParts,
    Text.Base64.decode?_eq_some_iff, parseBytes?_eq_some_iff]
  constructor
  · rintro ⟨_, ⟨hparts, rfl⟩, _, hmiddle, text, rfl, hsaid⟩
    exact ⟨hparts, text, hmiddle, hsaid⟩
  · rintro ⟨hparts, text, hmiddle, hsaid⟩
    exact ⟨middle, ⟨hparts, rfl⟩, _, hmiddle, text, rfl, hsaid⟩

/-! ### Validity -/

theorem isValid_iff {token : String} {now : Int} :
    isValid token now = true ↔
      ∃ claims n, claims? token.toList = some claims ∧ claims.member? "exp" = some (.number n) ∧
        now < wholeSeconds n := by
  have hexpiry : ∀ claims e, expiry? claims = some e ↔
      ∃ n, claims.member? "exp" = some (.number n) ∧ wholeSeconds n = e := by
    intro claims e
    unfold expiry?
    constructor
    · intro h
      split at h
      · rename_i n hn
        exact ⟨n, hn, Option.some.inj h⟩
      · cases h
    · rintro ⟨n, hn, rfl⟩
      rw [hn]
  unfold isValid
  cases hend : (claims? token.toList).bind expiry? with
  | none =>
    refine ⟨nofun, fun ⟨claims, n, hclaims, hn, _⟩ => ?_⟩
    rw [hclaims, Option.bind_some, (hexpiry claims _).2 ⟨n, hn, rfl⟩] at hend
    cases hend
  | some e =>
    obtain ⟨claims, hclaims, hend⟩ := Option.bind_eq_some_iff.1 hend
    obtain ⟨n, hn, rfl⟩ := (hexpiry claims e).1 hend
    refine ⟨fun h => ⟨claims, n, hclaims, hn, of_decide_eq_true h⟩, ?_⟩
    rintro ⟨claims', n', hclaims', hn', h⟩
    cases hclaims.symm.trans hclaims'
    cases hn.symm.trans hn'
    exact decide_eq_true h

/-- Whether the end that claims give, if it is a number, is integral and of less than 53 bits. -/
def IntegralEnd (claims : Json) : Prop :=
  ∀ n, claims.member? "exp" = some (.number n) → ∃ i : Int, n.toRat = i ∧ i.natAbs < 2 ^ 53

/-- A token whose claims are known is valid before the end that these give. -/
theorem isValid_of_claims {token : String} {claims : Json}
    (hclaims : claims? token.toList = some claims) (hwf : claims.WellFormed)
    (hend : IntegralEnd claims) (now : Int) :
    isValid token now = true ↔ ∃ members n, claims = .object members ∧
      ("exp", .number n) ∈ members ∧ (now : ℚ) < n.toRat := by
  have hseconds : ∀ n, claims.member? "exp" = some (.number n) →
      (now < wholeSeconds n ↔ (now : ℚ) < n.toRat) := by
    intro n hn
    obtain ⟨i, hi, hbound⟩ := hend n hn
    rw [wholeSeconds_eq hi hbound, hi, Int.cast_lt]
  rw [isValid_iff]
  constructor
  · -- nothing but an object has members
    rintro ⟨claims', n, hclaims', hn, hnow⟩
    cases hclaims.symm.trans hclaims'
    have hrat := (hseconds n hn).1 hnow
    cases claims with
    | object members => exact ⟨members, n, rfl, (Members.get?_eq_some_iff hwf.1).1 hn, hrat⟩
    | _ => cases hn
  · rintro ⟨members, n, rfl, hmem, hnow⟩
    have hn : (Json.object members).member? "exp" = some (.number n) :=
      (Members.get?_eq_some_iff hwf.1).2 hmem
    exact ⟨_, n, hclaims, hn, (hseconds n hn).2 hnow⟩

theorem not_mem_encode {bytes : Bytes} {c : Char} (hc : Text.Base64.value? c = none) :
    c ∉ Text.Base64.encode bytes := by
  intro h
  have hsome := Text.Base64.isSome_value?_of_mem h
  rw [hc] at hsome
  cases hsome

/-- The claims of a token do not depend on its other parts. -/
theorem isValid_congr {header middle signature header' signature' : List Char}
    (hheader : '.' ∉ header) (hsignature : '.' ∉ signature) (hheader' : '.' ∉ header')
    (hsignature' : '.' ∉ signature') (now : Int) :
    isValid (ofParts header middle signature) now =
      isValid (ofParts header' middle signature') now := by
  have hclaims : claims? (ofParts header middle signature).toList =
      claims? (ofParts header' middle signature').toList := by
    ext v
    simp only [claims?_ofParts, hheader, hsignature, hheader', hsignature', not_false_iff,
      true_and, and_true]
  unfold isValid
  rw [hclaims]

theorem count_dot_of_isValid {token : String} {now : Int} (h : isValid token now = true) :
    token.toList.count '.' = 2 := by
  obtain ⟨claims, n, hclaims, -, -⟩ := isValid_iff.1 h
  obtain ⟨middle, hmiddle, -⟩ := Option.bind_eq_some_iff.1 hclaims
  exact count_dot_of_middlePart? hmiddle

/-- A token with the base64 of a text of claims is valid before the end that these give. -/
theorem isValid_ofParts_iff {header signature text : List Char} {claims : Json}
    (hheader : '.' ∉ header) (hsignature : '.' ∉ signature)
    (hsaid : Json.TextSays Json.maxDepth text claims) (hend : IntegralEnd claims) (k : Nat)
    (now : Int) :
    isValid (ofParts header (Text.Base64.encode (Text.Utf8.encode text) ++ List.replicate k '=')
        signature) now = true ↔
      ∃ members n, claims = .object members ∧ ("exp", .number n) ∈ members ∧
        (now : ℚ) < n.toRat := by
  have hdot : '.' ∉ Text.Base64.encode (Text.Utf8.encode text) ++ List.replicate k '=' := by
    rw [List.mem_append, not_or]
    exact ⟨not_mem_encode (by decide), fun h => absurd (List.eq_of_mem_replicate h) (by decide)⟩
  have hclaims := claims?_ofParts.2 ⟨⟨hheader, hdot, hsignature⟩, text,
    dropPadding_append (not_mem_encode (by decide)) k, hsaid⟩
  exact isValid_of_claims hclaims (Json.wellFormed_of_textSays hsaid).1 hend now

/-- A token with anything else in its middle is never valid. -/
theorem isValid_ofParts_eq_false {header middle signature : List Char}
    (hother : ∀ text claims k, Json.TextSays Json.maxDepth text claims →
      middle ≠ Text.Base64.encode (Text.Utf8.encode text) ++ List.replicate k '=') (now : Int) :
    isValid (ofParts header middle signature) now = false := by
  rw [Bool.eq_false_iff]
  intro h
  obtain ⟨claims, n, hclaims, -, -⟩ := isValid_iff.1 h
  obtain ⟨-, text, hmiddle, hsaid⟩ := claims?_ofParts.1 hclaims
  obtain ⟨k, hpadded⟩ := exists_eq_dropPadding_append middle
  exact hother text claims k hsaid (hmiddle ▸ hpadded)

theorem isValid_of_le {token : String} {now now' : Int} (hle : now' ≤ now)
    (h : isValid token now = true) : isValid token now' = true := by
  obtain ⟨claims, n, hclaims, hn, hnow⟩ := isValid_iff.1 h
  exact isValid_iff.2 ⟨claims, n, hclaims, hn, Int.lt_of_le_of_lt hle hnow⟩

theorem validToken?_eq_some_iff {s : Store} {now : Int} {token : String} :
    s.validToken? now = some token ↔ s.isValid now = true ∧ token = s.token := by
  unfold Store.validToken?
  split
  · rename_i hvalid
    rw [Option.some.injEq, and_iff_right hvalid, eq_comm]
  · rename_i hinvalid
    exact ⟨nofun, fun h => absurd h.1 hinvalid⟩

/-- Which tokens are valid. A valid token has exactly two dots. A token whose middle part is the
base64 of a text of claims, with any padding behind it, is valid as long as the claims are an object
whose member `exp` is a number greater than the time; a token with any other middle part is never
valid. A token that is valid was valid before, whatever its first and last part are, and the valid
token of a store is its token while that is valid. -/
theorem validity_exact :
    (∀ token now, isValid token now = true → token.toList.count '.' = 2) ∧
    (∀ header signature text claims k now, '.' ∉ header → '.' ∉ signature →
      Json.TextSays Json.maxDepth text claims → IntegralEnd claims →
      (isValid (ofParts header (Text.Base64.encode (Text.Utf8.encode text) ++
          List.replicate k '=') signature) now = true ↔
        ∃ members n, claims = .object members ∧ ("exp", .number n) ∈ members ∧
          (now : ℚ) < n.toRat)) ∧
    (∀ header middle signature now,
      (∀ text claims k, Json.TextSays Json.maxDepth text claims →
        middle ≠ Text.Base64.encode (Text.Utf8.encode text) ++ List.replicate k '=') →
      isValid (ofParts header middle signature) now = false) ∧
    (∀ token now now', now' ≤ now → isValid token now = true → isValid token now' = true) ∧
    (∀ header header' middle signature signature' now, '.' ∉ header → '.' ∉ header' →
      '.' ∉ signature → '.' ∉ signature' →
      isValid (ofParts header middle signature) now =
        isValid (ofParts header' middle signature') now) ∧
    (∀ (s : Store) now token, s.validToken? now = some token ↔
      s.isValid now = true ∧ token = s.token) :=
  ⟨fun _ _ => count_dot_of_isValid,
    fun _ _ _ _ k now hheader hsignature hsaid hend =>
      isValid_ofParts_iff hheader hsignature hsaid hend k now,
    fun _ _ _ now hother => isValid_ofParts_eq_false hother now,
    fun _ _ _ => isValid_of_le,
    fun _ _ _ _ _ now hheader hheader' hsignature hsignature' =>
      isValid_congr hheader hsignature hheader' hsignature' now,
    fun _ _ _ => validToken?_eq_some_iff⟩

/-- The claims of a token that ends at a time. -/
def claimsUntil (time : Int) : Json := .object [("exp", .number (.integer time))]

/-- A token with padding that ends at the time 2000 is valid at 1999 and not at 2000. -/
theorem validity_exact_padded :
    isValid "e30.eyJleHAiOjIwMDB9==.c2ln" 1999 = true ∧
      isValid "e30.eyJleHAiOjIwMDB9==.c2ln" 2000 = false := by
  have htoken : "e30.eyJleHAiOjIwMDB9==.c2ln" = ofParts ['e', '3', '0']
      (Text.Base64.encode (Text.Utf8.encode (claimsUntil 2000).text) ++ List.replicate 2 '=')
      ['c', '2', 'l', 'n'] := by decide +kernel
  have hsaid : Json.TextSays Json.maxDepth (claimsUntil 2000).text (claimsUntil 2000) :=
    Json.textSays_text (by simp [claimsUntil, Json.WellFormed, Json.MembersWellFormed,
      Number.InRange, Members.Ascending]) (by decide) (by decide)
  have hend : IntegralEnd (claimsUntil 2000) := by
    intro n hn
    obtain rfl : .integer 2000 = n := by simpa [claimsUntil, Json.member?, Members.get?] using hn
    exact ⟨2000, rfl, by decide⟩
  obtain ⟨-, hvalid, -⟩ := validity_exact
  have hnow := fun now => hvalid ['e', '3', '0'] ['c', '2', 'l', 'n'] _ _ 2 now (by decide)
    (by decide) hsaid hend
  rw [← htoken] at hnow
  constructor
  · exact (hnow 1999).2 ⟨_, _, rfl, List.mem_singleton_self _, by norm_num [Number.toRat]⟩
  · rw [Bool.eq_false_iff]
    intro h
    obtain ⟨members, n, hmembers, hmem, hlt⟩ := (hnow 2000).1 h
    cases hmembers
    cases List.mem_singleton.1 hmem
    norm_num [Number.toRat] at hlt

end TopicStream.Credential
