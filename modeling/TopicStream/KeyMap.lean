/-!
# Maps with text keys in ascending order

Members are pairs of a key and a value. A list of members is *ascending* when each key comes before
all later ones in code point order; a `KeyMap` is an ascending list, so that equal maps have equal
members and walking a map meets its keys in order.
-/

namespace TopicStream

namespace Members

variable {α : Type _}

/-- Each key comes before all later ones. -/
def Ascending (members : List (String × α)) : Prop :=
  members.Pairwise (·.1 < ·.1)

/-- Places a member before the first greater key, or in the place of an equal one. -/
def insert (key : String) (value : α) : List (String × α) → List (String × α)
  | [] => [(key, value)]
  | (k, v) :: rest =>
    if key < k then (key, value) :: (k, v) :: rest
    else if key = k then (key, value) :: rest
    else (k, v) :: insert key value rest

/-- The value of the first member with a key. -/
def get? (key : String) (members : List (String × α)) : Option α :=
  (members.find? (·.1 == key)).map (·.2)

/-- A key below all keys of a list and below an inserted key is below all keys of the result. -/
theorem forall_lt_insert {k key : String} {value : α} {members : List (String × α)}
    (hkey : k < key) (h : ∀ m ∈ members, k < m.1) : ∀ m ∈ insert key value members, k < m.1 := by
  induction members with
  | nil => simpa [insert] using hkey
  | cons m rest ih =>
    obtain ⟨hm, hrest⟩ := List.forall_mem_cons.1 h
    rw [insert]
    split
    · exact List.forall_mem_cons.2 ⟨hkey, h⟩
    · split
      · exact List.forall_mem_cons.2 ⟨hkey, hrest⟩
      · exact List.forall_mem_cons.2 ⟨hm, ih hrest⟩

/-- Inserting keeps the members ascending. -/
theorem ascending_insert {key : String} {value : α} {members : List (String × α)}
    (h : Ascending members) : Ascending (insert key value members) := by
  induction members with
  | nil => exact List.pairwise_singleton _ _
  | cons m rest ih =>
    obtain ⟨hm, hrest⟩ := List.pairwise_cons.1 h
    rw [insert]
    split
    next hlt =>
      exact List.pairwise_cons.2
        ⟨List.forall_mem_cons.2 ⟨hlt, fun x hx => String.lt_trans hlt (hm x hx)⟩, h⟩
    next hlt =>
      split
      next heq => exact List.pairwise_cons.2 ⟨fun x hx => heq ▸ hm x hx, hrest⟩
      next hne =>
        have hgt : m.1 < key := by grind
        exact List.pairwise_cons.2 ⟨forall_lt_insert hgt hm, ih hrest⟩

end Members

/-- A map from texts: its members in ascending order of their keys. -/
structure KeyMap (α : Type _) where
  /-- The members, each key once. -/
  members : List (String × α)
  /-- The keys are strictly ascending. -/
  ascending : Members.Ascending members

namespace KeyMap

variable {α : Type _}

/-- The map without members. -/
def empty : KeyMap α := ⟨[], .nil⟩

instance : Inhabited (KeyMap α) := ⟨empty⟩

/-- Whether there are no members. -/
def isEmpty (m : KeyMap α) : Bool := m.members.isEmpty

/-- The number of members. -/
def size (m : KeyMap α) : Nat := m.members.length

/-- The keys in ascending order. -/
def keys (m : KeyMap α) : List String := m.members.map (·.1)

/-- The value of a key. -/
def get? (m : KeyMap α) (key : String) : Option α := Members.get? key m.members

/-- Whether there is a member with a key. -/
def contains (m : KeyMap α) (key : String) : Bool := (m.get? key).isSome

/-- Gives a key a value; an earlier value of the key is lost. -/
def insert (m : KeyMap α) (key : String) (value : α) : KeyMap α :=
  ⟨Members.insert key value m.members, Members.ascending_insert m.ascending⟩

/-- Keeps the members that satisfy a condition. -/
def filter (m : KeyMap α) (keep : String → α → Bool) : KeyMap α :=
  ⟨m.members.filter fun p => keep p.1 p.2, m.ascending.filter _⟩

/-- Removes a key. -/
def erase (m : KeyMap α) (key : String) : KeyMap α :=
  m.filter fun k _ => k != key

/-- The map of a list of members; of members with one key the last counts. -/
def ofList (members : List (String × α)) : KeyMap α :=
  members.foldl (fun m p => m.insert p.1 p.2) empty

end KeyMap

end TopicStream
