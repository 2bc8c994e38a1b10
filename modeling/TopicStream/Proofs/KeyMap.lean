import TopicStream.KeyMap

/-!
# Looking up keys

What a map holds under a key after each of its operations. As the members are ascending, a value is
found under a key exactly if it is a member with that key (`KeyMap.get?_eq_some_iff`).
-/

namespace TopicStream

namespace Members

variable {α : Type _}

theorem get?_cons (key : String) (m : String × α) (members : List (String × α)) :
    get? key (m :: members) = if m.1 = key then some m.2 else get? key members := by
  unfold get?
  by_cases h : m.1 = key <;> simp [h]

/-- In an ascending list a value is found under a key exactly if it is a member with that key. -/
theorem get?_eq_some_iff {key : String} {value : α} {members : List (String × α)}
    (h : Ascending members) : get? key members = some value ↔ (key, value) ∈ members := by
  induction members with
  | nil => simp [get?]
  | cons m members ih =>
    obtain ⟨hlt, hrest⟩ := List.pairwise_cons.1 h
    rw [get?_cons, List.mem_cons]
    by_cases hm : m.1 = key
    · -- later members have greater keys
      have hnot : (key, value) ∉ members := by
        intro hmem
        have hgt := hlt _ hmem
        rw [hm] at hgt
        exact String.lt_irrefl key hgt
      rw [if_pos hm]
      constructor
      · intro heq
        cases heq
        exact .inl (by rw [← hm])
      · rintro (rfl | hmem)
        · rfl
        · exact absurd hmem hnot
    · rw [if_neg hm, ih hrest]
      constructor
      · exact .inr
      · rintro (rfl | hmem)
        · exact absurd rfl hm
        · exact hmem

theorem get?_insert (key key' : String) (value : α) (members : List (String × α)) :
    get? key' (insert key value members) =
      if key = key' then some value else get? key' members := by
  induction members with
  | nil => rw [insert, get?_cons]
  | cons m members ih =>
    unfold insert
    -- the new member goes before the first greater key, in the place of an equal one, or further on
    by_cases hlt : key < m.1
    · rw [if_pos hlt, get?_cons]
    · rw [if_neg hlt]
      by_cases heq : key = m.1
      · rw [if_pos heq, get?_cons, get?_cons]
        by_cases hkey : key = key'
        · rw [if_pos hkey, if_pos hkey]
        · rw [if_neg hkey, if_neg hkey, if_neg (heq ▸ hkey)]
      · rw [if_neg heq, get?_cons, get?_cons, ih]
        by_cases hm : m.1 = key'
        · rw [if_pos hm, if_pos hm, if_neg fun hkey => heq (hkey.trans hm.symm)]
        · rw [if_neg hm, if_neg hm]

/-- Giving a key the value that it has changes nothing. -/
theorem insert_eq_self {key : String} {value : α} {members : List (String × α)}
    (h : Ascending members) (hmem : (key, value) ∈ members) :
    insert key value members = members := by
  induction members with
  | nil => simp at hmem
  | cons m members ih =>
    obtain ⟨hlt, hrest⟩ := List.pairwise_cons.1 h
    rw [insert]
    rcases List.mem_cons.1 hmem with rfl | hmem
    · rw [if_neg (String.lt_irrefl key), if_pos rfl]
    · have hgt : m.1 < key := hlt _ hmem
      rw [if_neg (fun h => String.lt_irrefl key (String.lt_trans h hgt)),
        if_neg (fun h => String.lt_irrefl key (by rwa [← h] at hgt)), ih hrest hmem]

theorem mem_of_mem_insert {key : String} {value : α} {members : List (String × α)} {m : String × α}
    (h : m ∈ insert key value members) : m = (key, value) ∨ m ∈ members := by
  induction members with
  | nil => exact .inl (List.mem_singleton.1 h)
  | cons m' members ih =>
    rw [insert] at h
    split at h
    · exact List.mem_cons.1 h
    · split at h
      · exact (List.mem_cons.1 h).imp_right (List.mem_cons_of_mem _)
      · rcases List.mem_cons.1 h with rfl | h
        · exact .inr List.mem_cons_self
        · exact (ih h).imp_right (List.mem_cons_of_mem _)

/-- A key after all others is placed at the end. -/
theorem insert_eq_append {key : String} {value : α} {members : List (String × α)}
    (h : ∀ m ∈ members, m.1 < key) : insert key value members = members ++ [(key, value)] := by
  induction members with
  | nil => rfl
  | cons m members ih =>
    obtain ⟨hm, hmembers⟩ := List.forall_mem_cons.1 h
    rw [insert, if_neg fun hlt => String.lt_irrefl key (String.lt_trans hlt hm),
      if_neg fun heq => String.lt_irrefl key (by rwa [← heq] at hm), ih hmembers, List.cons_append]

/-- Places members one after the other among those placed before. -/
def insertAll (placed members : List (String × α)) : List (String × α) :=
  members.foldl (fun placed m => insert m.1 m.2 placed) placed

theorem insertAll_cons (placed : List (String × α)) (m : String × α) (members : List (String × α)) :
    insertAll placed (m :: members) = insertAll (insert m.1 m.2 placed) members := rfl

theorem mem_of_mem_insertAll {placed members : List (String × α)} {m : String × α}
    (h : m ∈ insertAll placed members) : m ∈ placed ∨ m ∈ members := by
  induction members generalizing placed with
  | nil => exact .inl h
  | cons m' members ih =>
    rcases ih h with h | h
    · rcases mem_of_mem_insert h with rfl | h
      · exact .inr List.mem_cons_self
      · exact .inl h
    · exact .inr (List.mem_cons_of_mem _ h)

/-- Members that are ascending already stay as they are. -/
theorem insertAll_of_ascending {placed members : List (String × α)}
    (h : Ascending (placed ++ members)) : insertAll placed members = placed ++ members := by
  induction members generalizing placed with
  | nil => exact (List.append_nil placed).symm
  | cons m members ih =>
    obtain ⟨-, -, hlt⟩ := List.pairwise_append.1 h
    rw [insertAll_cons, insert_eq_append fun m' hm' => hlt m' hm' m List.mem_cons_self,
      ih (by rwa [List.append_assoc, List.singleton_append]), List.append_assoc,
      List.singleton_append]

end Members

namespace KeyMap

variable {α : Type _}

/-- A value is found under a key exactly if it is a member with that key. -/
theorem get?_eq_some_iff {m : KeyMap α} {key : String} {value : α} :
    m.get? key = some value ↔ (key, value) ∈ m.members :=
  Members.get?_eq_some_iff m.ascending

@[simp]
theorem get?_empty (key : String) : (empty : KeyMap α).get? key = none := rfl

theorem get?_insert (m : KeyMap α) (key key' : String) (value : α) :
    (m.insert key value).get? key' = if key = key' then some value else m.get? key' :=
  Members.get?_insert key key' value m.members

/-- Looking up among the members that have been kept. -/
theorem get?_filter (m : KeyMap α) (keep : String → α → Bool) (key : String) :
    (m.filter keep).get? key = (m.get? key).filter (keep key) := by
  ext value
  rw [Option.filter_eq_some_iff, get?_eq_some_iff, get?_eq_some_iff]
  exact List.mem_filter

theorem get?_erase (m : KeyMap α) (key key' : String) :
    (m.erase key).get? key' = if key = key' then none else m.get? key' := by
  rw [erase, get?_filter]
  by_cases h : key = key'
  · rw [if_pos h, h]
    cases m.get? key' <;> simp
  · rw [if_neg h]
    cases m.get? key' <;> simp [Ne.symm h]

/-- A map has no members exactly if no key is found. -/
theorem isEmpty_iff {m : KeyMap α} : m.isEmpty = true ↔ ∀ key, m.get? key = none := by
  rw [isEmpty, List.isEmpty_iff]
  constructor
  · intro h key
    rw [get?, h]
    rfl
  · intro h
    refine List.eq_nil_iff_forall_not_mem.2 fun p hp => ?_
    have hsome : m.get? p.1 = some p.2 := get?_eq_some_iff.2 hp
    rw [h] at hsome
    cases hsome

/-- The keys are those under which something is found. -/
theorem mem_keys {m : KeyMap α} {key : String} :
    key ∈ m.keys ↔ ∃ value, m.get? key = some value := by
  unfold keys
  simp only [List.mem_map, get?_eq_some_iff]
  constructor
  · rintro ⟨p, hp, rfl⟩
    exact ⟨p.2, hp⟩
  · rintro ⟨value, hp⟩
    exact ⟨(key, value), hp, rfl⟩

/-- Giving a key the value that it has changes nothing. -/
theorem insert_eq_self {m : KeyMap α} {key : String} {value : α} (h : m.get? key = some value) :
    m.insert key value = m := by
  obtain ⟨members, ascending⟩ := m
  simp only [insert, mk.injEq]
  exact Members.insert_eq_self ascending (get?_eq_some_iff.1 h)

theorem members_ofList (members : List (String × α)) :
    (ofList members).members = Members.insertAll [] members := by
  have hplaced : ∀ placed : KeyMap α,
      (members.foldl (fun m p => m.insert p.1 p.2) placed).members =
        Members.insertAll placed.members members := by
    induction members with
    | nil => exact fun _ => rfl
    | cons m members ih => exact fun placed => ih (placed.insert m.1 m.2)
  exact hplaced empty

/-- A map holds no members but those that it is made of. -/
theorem mem_of_mem_ofList {members : List (String × α)} {m : String × α}
    (h : m ∈ (ofList members).members) : m ∈ members := by
  rw [members_ofList] at h
  exact (Members.mem_of_mem_insertAll h).resolve_left List.not_mem_nil

/-- Ascending members are the members of their map. -/
theorem members_ofList_of_ascending {members : List (String × α)}
    (h : Members.Ascending members) : (ofList members).members = members := by
  rw [members_ofList]
  exact Members.insertAll_of_ascending (by rwa [List.nil_append])

theorem length_keys (m : KeyMap α) : m.keys.length = m.size := List.length_map _

theorem keys_ascending (m : KeyMap α) : m.keys.Pairwise (· < ·) :=
  List.pairwise_map.2 m.ascending

/-- No key is listed twice. -/
theorem nodup_keys (m : KeyMap α) : m.keys.Nodup := by
  refine m.keys_ascending.imp fun {key key'} hlt heq => ?_
  rw [heq] at hlt
  exact String.lt_irrefl key' hlt

end KeyMap

end TopicStream
