import TopicStream.Proofs.Json.Number
import TopicStream.Proofs.KeyMap

/-!
# The grammar of JSON texts

Which texts say which value, put down without a reader: blanks may stand around values, keys, commas
and colons, and of members with one key the last counts. The number that a literal stands for is the
one that is read from the literal alone.

A text nests at most as deep as arrays and objects are opened inside one another in it, also where
a member is overridden by a later one.

## Main results

* `Says.wellFormed`: what a text can say;
* `says_text`: the compact text of a value says the value.
-/

namespace TopicStream.Json

/-! ### Values -/

/-- Blanks and nothing else. -/
def Blank (text : List Char) : Prop := ∀ c ∈ text, isBlank c = true

/-- A literal with an optional minus sign stands for the number that is read from it. -/
def NumberSays (text : List Char) (n : Number) : Prop :=
  ∃ negative literal, Literal literal ∧ readNumber negative literal = .ok (n, []) ∧
    text = if negative then '-' :: literal else literal

/-- The texts of values that are neither arrays nor objects. -/
inductive ScalarSays : List Char → Json → Prop where
  /-- The null value. -/
  | null : ScalarSays ['n', 'u', 'l', 'l'] .null
  /-- The boolean `true`. -/
  | yes : ScalarSays ['t', 'r', 'u', 'e'] (.bool true)
  /-- The boolean `false`. -/
  | no : ScalarSays ['f', 'a', 'l', 's', 'e'] (.bool false)
  /-- A number. -/
  | number {text : List Char} {n : Number} (literal : NumberSays text n) :
      ScalarSays text (.number n)
  /-- A string. -/
  | string {text : List Char} {s : String} (quoted : StringSays text s) :
      ScalarSays text (.string s)

/-- What stands before a part: nothing before the first one, and a comma before any other. -/
inductive Lead : (first : Bool) → List Char → Prop where
  /-- The first part follows the bracket. -/
  | bracket : Lead true []
  /-- Any other part follows a comma. -/
  | comma {blanks : List Char} (hblanks : Blank blanks) : Lead false (blanks ++ [','])

/-- What may stand before a closing bracket, from the opening one on (`first`) or from the end of a
part on. -/
inductive PartsSay {α : Type} (part : List Char → α → Prop) :
    (first : Bool) → List Char → List α → Prop where
  /-- No parts. -/
  | nil {first : Bool} {blanks : List Char} (hblanks : Blank blanks) : PartsSay part first blanks []
  /-- A part, and then others. -/
  | cons {first : Bool} {lead before inner tail : List Char} {a : α} {others : List α}
      (hlead : Lead first lead) (hbefore : Blank before) (hpart : part inner a)
      (hothers : PartsSay part false tail others) :
      PartsSay part first (lead ++ (before ++ (inner ++ tail))) (a :: others)

/-- A key, a colon and a value. -/
def MemberSays (value : List Char → Json → Prop) (text : List Char) (m : String × Json) : Prop :=
  ∃ key before after inner, StringSays key m.1 ∧ Blank before ∧ Blank after ∧ value inner m.2 ∧
    text = key ++ (before ++ ':' :: (after ++ inner))

/-- The texts of a value that nest at most `depth` arrays and objects, without blanks around them.
-/
def Says : (depth : Nat) → List Char → Json → Prop
  | 0, text, v => ScalarSays text v
  | depth + 1, text, v =>
    ScalarSays text v ∨
      (∃ inner items, PartsSay (Says depth) true inner items ∧ text = '[' :: (inner ++ [']']) ∧
        v = .array items) ∨
      ∃ inner members, PartsSay (MemberSays (Says depth)) true inner members ∧
        text = '\x7b' :: (inner ++ ['\x7d']) ∧ v = .ofMap (.ofList members)

/-- The JSON texts of a value that nest at most `depth` arrays and objects. -/
def TextSays (depth : Nat) (text : List Char) (v : Json) : Prop :=
  ∃ before inner after, Blank before ∧ Says depth inner v ∧ Blank after ∧
    text = before ++ (inner ++ after)

/-! ### Beginnings -/

theorem kindOf?_of_blank {c : Char} (h : isBlank c = true) : kindOf? c = none := by
  simp only [isBlank, Bool.or_eq_true, beq_iff_eq] at h
  rcases h with ((rfl | rfl) | rfl) | rfl <;> decide

/-- A literal begins with a digit. -/
theorem exists_literal_eq_cons {literal : List Char} (h : Literal literal) :
    ∃ c text, literal = c :: text ∧ c.isDigit = true := by
  obtain ⟨whole, tail, hwhole, -, rfl⟩ := h
  cases hwhole with
  | zero => exact ⟨_, _, rfl, rfl⟩
  | digits first all => exact ⟨_, _, rfl, all.2 _ List.mem_cons_self⟩

/-- The text of a value begins with a character that tells its kind. -/
theorem exists_scalar_eq_cons {text : List Char} {v : Json} (h : ScalarSays text v) :
    ∃ c rest, text = c :: rest ∧ kindOf? c = some v.kind := by
  cases h with
  | null => exact ⟨_, _, rfl, rfl⟩
  | yes => exact ⟨_, _, rfl, rfl⟩
  | no => exact ⟨_, _, rfl, rfl⟩
  | number literal =>
    obtain ⟨negative, literal, hliteral, -, rfl⟩ := literal
    cases negative with
    | true => exact ⟨_, _, rfl, rfl⟩
    | false =>
      obtain ⟨c, rest, rfl, hc⟩ := exists_literal_eq_cons hliteral
      exact ⟨c, rest, rfl, kindOf?_of_number (.inr hc)⟩
  | string quoted =>
    obtain ⟨inner, -, rfl⟩ := quoted
    exact ⟨_, _, rfl, rfl⟩

/-- The text of a value begins with a character that tells its kind. -/
theorem Says.exists_eq_cons {depth : Nat} {text : List Char} {v : Json}
    (h : Says depth text v) : ∃ c rest, text = c :: rest ∧ kindOf? c = some v.kind := by
  cases depth with
  | zero => exact exists_scalar_eq_cons h
  | succ depth =>
    rcases h with h | ⟨inner, items, -, rfl, rfl⟩ | ⟨inner, members, -, rfl, rfl⟩
    · exact exists_scalar_eq_cons h
    · exact ⟨_, _, rfl, rfl⟩
    · exact ⟨_, _, rfl, rfl⟩

/-! ### What can be said -/

mutual

/-- Whether the integers of a value are in range and the members of its objects ascending. -/
def WellFormed : Json → Prop
  | .number n => n.InRange
  | .array items => ItemsWellFormed items
  | .object members => Members.Ascending members ∧ MembersWellFormed members
  | _ => True

/-- Whether all items are well-formed. -/
def ItemsWellFormed : List Json → Prop
  | [] => True
  | v :: rest => WellFormed v ∧ ItemsWellFormed rest

/-- Whether all members are well-formed. -/
def MembersWellFormed : List (String × Json) → Prop
  | [] => True
  | (_, v) :: rest => WellFormed v ∧ MembersWellFormed rest

end

mutual

/-- How many arrays and objects are nested in a value. -/
def nesting : Json → Nat
  | .array items => itemsNesting items + 1
  | .object members => membersNesting members + 1
  | _ => 0

/-- How many arrays and objects are nested in the items of an array. -/
def itemsNesting : List Json → Nat
  | [] => 0
  | v :: rest => max (nesting v) (itemsNesting rest)

/-- How many arrays and objects are nested in the members of an object. -/
def membersNesting : List (String × Json) → Nat
  | [] => 0
  | (_, v) :: rest => max (nesting v) (membersNesting rest)

end

theorem itemsWellFormed_iff {items : List Json} :
    ItemsWellFormed items ↔ ∀ v ∈ items, v.WellFormed := by
  induction items with
  | nil => simp [ItemsWellFormed]
  | cons v items ih => simp [ItemsWellFormed, ih]

theorem membersWellFormed_iff {members : List (String × Json)} :
    MembersWellFormed members ↔ ∀ m ∈ members, m.2.WellFormed := by
  induction members with
  | nil => simp [MembersWellFormed]
  | cons m members ih => simp [MembersWellFormed, ih]

theorem itemsNesting_le_iff {items : List Json} {depth : Nat} :
    itemsNesting items ≤ depth ↔ ∀ v ∈ items, v.nesting ≤ depth := by
  induction items with
  | nil => simp [itemsNesting]
  | cons v items ih => rw [itemsNesting, Nat.max_le, ih, List.forall_mem_cons]

theorem membersNesting_le_iff {members : List (String × Json)} {depth : Nat} :
    membersNesting members ≤ depth ↔ ∀ m ∈ members, m.2.nesting ≤ depth := by
  induction members with
  | nil => simp [membersNesting]
  | cons m members ih => rw [membersNesting, Nat.max_le, ih, List.forall_mem_cons]

/-- What holds of all parts that can be said holds of those between two brackets. -/
theorem forall_of_partsSay {α : Type} {part : List Char → α → Prop} {p : α → Prop}
    (hpart : ∀ {text a}, part text a → p a) {first : Bool} {text : List Char} {all : List α}
    (h : PartsSay part first text all) : ∀ a ∈ all, p a := by
  induction h with
  | nil => simp
  | cons _ _ hinner _ ih => exact List.forall_mem_cons.2 ⟨hpart hinner, ih⟩

theorem wellFormed_of_scalarSays {text : List Char} {v : Json} (h : ScalarSays text v) :
    v.WellFormed ∧ v.nesting = 0 := by
  cases h with
  | null => exact ⟨trivial, rfl⟩
  | yes => exact ⟨trivial, rfl⟩
  | no => exact ⟨trivial, rfl⟩
  | number literal =>
    obtain ⟨negative, literal, -, hread, -⟩ := literal
    exact ⟨(readNumber_takes _ _ _ _ hread).1, rfl⟩
  | string quoted => exact ⟨trivial, rfl⟩

/-- What a text says is well-formed and nests no deeper than the text. -/
theorem Says.wellFormed {depth : Nat} {text : List Char} {v : Json} (h : Says depth text v) :
    v.WellFormed ∧ v.nesting ≤ depth := by
  induction depth generalizing text v with
  | zero =>
    obtain ⟨hv, hnesting⟩ := wellFormed_of_scalarSays h
    exact ⟨hv, Nat.le_of_eq hnesting⟩
  | succ depth ih =>
    rcases h with h | ⟨inner, items, hitems, rfl, rfl⟩ | ⟨inner, members, hmembers, rfl, rfl⟩
    · obtain ⟨hv, hnesting⟩ := wellFormed_of_scalarSays h
      exact ⟨hv, hnesting ▸ Nat.zero_le _⟩
    · have hall := forall_of_partsSay (p := fun v => v.WellFormed ∧ v.nesting ≤ depth) ih hitems
      exact ⟨itemsWellFormed_iff.2 fun v hv => (hall v hv).1,
        Nat.succ_le_succ (itemsNesting_le_iff.2 fun v hv => (hall v hv).2)⟩
    · have hall := forall_of_partsSay (p := fun m => m.2.WellFormed ∧ m.2.nesting ≤ depth)
        (fun ⟨_, _, _, _, _, _, _, hvalue, _⟩ => ih hvalue) hmembers
      -- a map holds some of the members that it is made of
      have hkept : ∀ m ∈ (KeyMap.ofList members).members, m.2.WellFormed ∧ m.2.nesting ≤ depth :=
        fun m hm => hall m (KeyMap.mem_of_mem_ofList hm)
      exact ⟨⟨(KeyMap.ofList members).ascending,
          membersWellFormed_iff.2 fun m hm => (hkept m hm).1⟩,
        Nat.succ_le_succ (membersNesting_le_iff.2 fun m hm => (hkept m hm).2)⟩

theorem wellFormed_of_textSays {depth : Nat} {text : List Char} {v : Json}
    (h : TextSays depth text v) : v.WellFormed ∧ v.nesting ≤ depth := by
  obtain ⟨-, inner, -, -, hinner, -, -⟩ := h
  exact Says.wellFormed hinner

/-! ### Compact texts -/

theorem blank_nil : Blank [] := by simp [Blank]

/-- The items after the first are written as the grammar has it. -/
theorem partsSay_itemsText {part : List Char → Json → Prop} {items : List Json}
    (h : ∀ v ∈ items, part v.text v) :
    ∃ inner, itemsText items = inner ++ [']'] ∧ PartsSay part false inner items := by
  induction items with
  | nil => exact ⟨[], rfl, .nil blank_nil⟩
  | cons v items ih =>
    obtain ⟨hv, hitems⟩ := List.forall_mem_cons.1 h
    obtain ⟨inner, htext, hinner⟩ := ih hitems
    exact ⟨',' :: (v.text ++ inner), by rw [itemsText, htext]; simp,
      .cons (.comma blank_nil) blank_nil hv hinner⟩

theorem memberSays_text {value : List Char → Json → Prop} {m : String × Json}
    (h : value m.2.text m.2) : MemberSays value (quote m.1 ++ ':' :: m.2.text) m :=
  ⟨quote m.1, [], [], m.2.text, stringSays_quote m.1, blank_nil, blank_nil, h, rfl⟩

/-- The members after the first are written as the grammar has it. -/
theorem partsSay_membersText {value : List Char → Json → Prop} {members : List (String × Json)}
    (h : ∀ m ∈ members, value m.2.text m.2) :
    ∃ inner, membersText members = inner ++ ['\x7d'] ∧
      PartsSay (MemberSays value) false inner members := by
  induction members with
  | nil => exact ⟨[], rfl, .nil blank_nil⟩
  | cons m members ih =>
    obtain ⟨hm, hmembers⟩ := List.forall_mem_cons.1 h
    obtain ⟨inner, htext, hinner⟩ := ih hmembers
    exact ⟨',' :: (quote m.1 ++ ':' :: m.2.text ++ inner), by rw [membersText, htext]; simp,
      .cons (.comma blank_nil) blank_nil (memberSays_text hm) hinner⟩

theorem numberSays_integerText {i : Int} (hi : (Number.integer i).InRange) :
    NumberSays (Number.integerText i) (.integer i) := by
  obtain ⟨negative, literal, htext, hread⟩ := readNumber_integerText hi
  have hwhole := hread [] rfl
  rw [List.append_nil] at hwhole
  obtain ⟨-, used, hused, hliteral, -⟩ := readNumber_takes _ _ _ _ hwhole
  rw [List.append_nil] at hused
  exact ⟨negative, literal, hused ▸ hliteral, hwhole, htext⟩

theorem scalarSays_text {v : Json} (hv : v.WellFormed) (hfree : v.isFloatFree = true)
    (hscalar : v.nesting = 0) : ScalarSays v.text v := by
  cases v with
  | null => exact .null
  | bool b =>
    cases b with
    | true => exact .yes
    | false => exact .no
  | number n =>
    cases n with
    | integer i => exact .number (numberSays_integerText hv)
    | float x => cases hfree
  | string s => exact .string (stringSays_quote s)
  | array items => cases hscalar
  | object members => cases hscalar

theorem says_of_scalarSays {text : List Char} {v : Json} (h : ScalarSays text v) (depth : Nat) :
    Says depth text v := by
  cases depth with
  | zero => exact h
  | succ depth => exact .inl h

/-- The text of an array says the array if the texts of its items say these. -/
theorem says_array {depth : Nat} {items : List Json} (h : ∀ v ∈ items, Says depth v.text v) :
    Says (depth + 1) (Json.array items).text (.array items) := by
  refine .inr (.inl ?_)
  cases items with
  | nil => exact ⟨[], [], .nil blank_nil, rfl, rfl⟩
  | cons v items =>
    obtain ⟨hv, hitems⟩ := List.forall_mem_cons.1 h
    obtain ⟨inner, htext, hinner⟩ := partsSay_itemsText hitems
    exact ⟨_, _, .cons .bracket blank_nil hv hinner, by simp [text, htext], rfl⟩

/-- The text of an object says the object if the texts of its values say these. -/
theorem says_object {depth : Nat} {members : List (String × Json)}
    (hascending : Members.Ascending members) (h : ∀ m ∈ members, Says depth m.2.text m.2) :
    Says (depth + 1) (Json.object members).text (.object members) := by
  have hvalue : Json.object members = .ofMap (.ofList members) := by
    rw [ofMap, KeyMap.members_ofList_of_ascending hascending]
  refine .inr (.inr ?_)
  cases members with
  | nil => exact ⟨[], [], .nil blank_nil, rfl, hvalue⟩
  | cons m members =>
    obtain ⟨hm, hmembers⟩ := List.forall_mem_cons.1 h
    obtain ⟨inner, htext, hinner⟩ := partsSay_membersText hmembers
    exact ⟨_, _, .cons .bracket blank_nil (memberSays_text hm) hinner, by simp [text, htext],
      hvalue⟩

/-- The text of a value without floats says the value. -/
theorem says_text {depth : Nat} {v : Json} (hv : v.WellFormed) (hfree : v.isFloatFree = true)
    (hnesting : v.nesting ≤ depth) : Says depth v.text v := by
  induction depth generalizing v with
  | zero => exact scalarSays_text hv hfree (Nat.le_zero.1 hnesting)
  | succ depth ih =>
    by_cases hscalar : v.nesting = 0
    · exact says_of_scalarSays (scalarSays_text hv hfree hscalar) _
    cases v with
    | array items =>
      have hitems := itemsWellFormed_iff.1 hv
      have hitemsFree := itemsFloatFree_iff.1 hfree
      have hdepth := itemsNesting_le_iff.1 (Nat.le_of_succ_le_succ hnesting)
      exact says_array fun v hmem => ih (hitems v hmem) (hitemsFree v hmem) (hdepth v hmem)
    | object members =>
      obtain ⟨hascending, hmembers⟩ := hv
      have hmembers := membersWellFormed_iff.1 hmembers
      have hmembersFree := membersFloatFree_iff.1 hfree
      have hdepth := membersNesting_le_iff.1 (Nat.le_of_succ_le_succ hnesting)
      exact says_object hascending fun m hmem =>
        ih (hmembers m hmem) (hmembersFree m hmem) (hdepth m hmem)
    | _ => exact absurd rfl hscalar

theorem textSays_text {depth : Nat} {v : Json} (hv : v.WellFormed) (hfree : v.isFloatFree = true)
    (hnesting : v.nesting ≤ depth) : TextSays depth v.text v :=
  ⟨[], v.text, [], blank_nil, says_text hv hfree hnesting, blank_nil, (List.append_nil _).symm⟩

end TopicStream.Json
