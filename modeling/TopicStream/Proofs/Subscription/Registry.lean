import TopicStream.Engine.Task
import TopicStream.Proofs.KeyMap
import TopicStream.Proofs.Text.Order

/-!
# Registrations

What the operations of a registry do to the registrations of each topic: a registration is added at
the end of its topic under an id that was never issued before, and a removal takes registrations out
and leaves the others in their order.

## Main results

* `Registry.WellFormed`: no topic without listeners, ascending ids in each topic, no id twice; kept
  by `Registry.WellFormed.add` and `Registry.WellFormed.of_sublist`;
* `Registry.mem_activeTopics`: the active topics are those with registrations;
* `Registry.Withdrawn`: an id that was issued and is not registered any more, kept by
  `Registry.Withdrawn.add` and `Registry.Withdrawn.of_sublist`;
* `Registry.SameBut`: all registrations but those of one id are the same, as after the addition or
  the removal of one.
-/

namespace TopicStream.Subscription

namespace Registry

variable {L : Type} (r : Registry L)

/-! ### The registrations of a topic -/

/-- A registration is added at the end of its topic. -/
theorem entries_add (topic topic' : String) (listener : L) :
    (r.add topic listener).2.entries topic' =
      if topic = topic' then r.entries topic ++ [(⟨r.issued + 1⟩, listener)]
      else r.entries topic' := by
  unfold add entries
  rw [KeyMap.get?_insert]
  by_cases h : topic = topic'
  · rw [if_pos h, if_pos h]
    rfl
  · rw [if_neg h, if_neg h]

/-- Topics that are not kept have no registrations, and the others those that they had. -/
theorem entries_filter (keep : String → Bool) (topic : String) :
    entries { r with topics := r.topics.filter fun topic _ => keep topic } topic =
      if keep topic then r.entries topic else [] := by
  unfold entries
  rw [KeyMap.get?_filter]
  by_cases h : keep topic = true <;> cases r.topics.get? topic <;> simp [h, Option.filter]

/-- A removed topic has no registrations. -/
theorem entries_removeTopic (topic topic' : String) :
    (r.removeTopic topic).2.entries topic' = if topic = topic' then [] else r.entries topic' := by
  refine (r.entries_filter (· != topic) topic').trans ?_
  by_cases h : topic = topic'
  · simp [h]
  · simp [h, Ne.symm h]

/-- A topic that begins with the text has no registrations. -/
theorem entries_removeStarting (start topic : String) :
    (r.removeStarting start).2.entries topic =
      if startsWith start topic = true then [] else r.entries topic := by
  refine (r.entries_filter (!startsWith start ·) topic).trans ?_
  by_cases h : startsWith start topic = true <;> simp [h]

/-- The removal of one registration leaves the others of its topic in their order. -/
theorem entries_removeListener (topic topic' : String) (id : ListenerId) :
    (r.removeListener topic id).2.entries topic' =
      if topic = topic' then (r.entries topic).filter (·.1 != id) else r.entries topic' := by
  unfold removeListener
  split
  · rename_i habsent
    by_cases h : topic = topic'
    · subst h
      simp [entries, habsent]
    · rw [if_neg h]
  · rename_i present hpresent
    have hentries : r.entries topic = present := by
      rw [entries, hpresent]
      rfl
    simp only [hentries]
    -- a topic without listeners left is dropped altogether
    by_cases hkept : (present.filter fun e => e.1 != id).isEmpty = true
    · rw [if_pos hkept]
      rw [List.isEmpty_iff] at hkept
      unfold entries
      rw [KeyMap.get?_erase, hkept]
      by_cases h : topic = topic'
      · rw [if_pos h, if_pos h]
        rfl
      · rw [if_neg h, if_neg h]
    · rw [if_neg hkept]
      unfold entries
      rw [KeyMap.get?_insert]
      by_cases h : topic = topic'
      · rw [if_pos h, if_pos h]
        rfl
      · rw [if_neg h, if_neg h]

/-- The removal of one registration adds none. -/
theorem entries_removeListener_sublist (topic topic' : String) (id : ListenerId) :
    ((r.removeListener topic id).2.entries topic').Sublist (r.entries topic') := by
  rw [entries_removeListener]
  split
  · rename_i heq
    rw [heq]
    exact List.filter_sublist
  · exact List.Sublist.refl _

@[simp]
theorem issued_removeListener (topic : String) (id : ListenerId) :
    (r.removeListener topic id).2.issued = r.issued := by
  unfold removeListener
  split <;> rfl

/-- The active topics are those with registrations. -/
theorem mem_activeTopics {topic : String} : topic ∈ r.activeTopics ↔ r.entries topic ≠ [] := by
  unfold activeTopics entries
  rw [KeyMap.mem_keys]
  simp only [KeyMap.get?_filter]
  cases r.topics.get? topic with
  | none => simp
  | some present => cases present <;> simp

/-- The active topics come in the order of their encodings, each once. -/
theorem activeTopics_ascending :
    r.activeTopics.Pairwise fun s t => Text.Utf8.encode s.toList < Text.Utf8.encode t.toList := by
  refine (KeyMap.keys_ascending _).imp fun h => ?_
  exact Text.Utf8.encode_lt_encode (String.lt_iff_toList_lt.1 h)

theorem isEmpty_add (topic : String) (listener : L) :
    (r.add topic listener).2.isEmpty = false := by
  rw [← Bool.not_eq_true]
  intro hempty
  have hnone := KeyMap.isEmpty_iff.1 hempty topic
  rw [add, KeyMap.get?_insert, if_pos rfl] at hnone
  cases hnone

theorem activeTopics_of_isEmpty (h : r.isEmpty = true) : r.activeTopics = [] := by
  refine List.eq_nil_iff_forall_not_mem.2 fun topic hactive => ?_
  rw [mem_activeTopics, entries, KeyMap.isEmpty_iff.1 h] at hactive
  exact hactive rfl

/-! ### Well-formed registries -/

variable {r}

/-- What holds of every registry that was empty once. -/
structure WellFormed (r : Registry L) : Prop where
  /-- No topic is present without a listener. -/
  present : ∀ topic, r.topics.get? topic ≠ some []
  /-- The registrations of a topic have ascending ids. -/
  ascending : ∀ topic, (r.entries topic).Pairwise fun p q => p.1.number < q.1.number
  /-- The ids of all registrations have been issued. -/
  issued : ∀ topic, ∀ p ∈ r.entries topic, p.1.number ≤ r.issued
  /-- An id is registered under one topic only. -/
  unique : ∀ topic topic' p p', p ∈ r.entries topic → p' ∈ r.entries topic' → p.1 = p'.1 →
    topic = topic'

theorem wellFormed_empty : (empty : Registry L).WellFormed where
  present topic h := by cases h
  ascending topic := .nil
  issued topic p hp := by cases hp
  unique topic topic' p p' hp := by cases hp

/-- In a well-formed registry a topic is active if there is one. -/
theorem WellFormed.activeTopics_ne_nil (h : r.WellFormed) (hempty : r.isEmpty = false) :
    r.activeTopics ≠ [] := by
  intro hnone
  have hall : r.isEmpty = true := by
    refine KeyMap.isEmpty_iff.2 fun topic => ?_
    have hentries : r.entries topic = [] := by
      have hnot : topic ∈ r.activeTopics ↔ r.entries topic ≠ [] := r.mem_activeTopics
      rw [hnone] at hnot
      simpa using hnot
    unfold entries at hentries
    cases hget : r.topics.get? topic with
    | none => rfl
    | some present =>
      rw [hget, Option.getD_some] at hentries
      exact absurd (hentries ▸ hget) (h.present topic)
  rw [hall] at hempty
  cases hempty

/-- An id is registered once. -/
theorem WellFormed.filter_id (h : r.WellFormed) {topic : String} {p : ListenerId × L}
    (hp : p ∈ r.entries topic) : (r.entries topic).filter (fun q => q.1 = p.1) = [p] := by
  -- the ids before and after are smaller and greater
  obtain ⟨before, after, heq⟩ := List.append_of_mem hp
  have hascending := h.ascending topic
  rw [heq, List.pairwise_append, List.pairwise_cons] at hascending
  obtain ⟨-, ⟨hafter, -⟩, hbefore⟩ := hascending
  rw [heq, List.filter_eq_cons_iff]
  refine ⟨before, after, rfl, fun q hq hid => ?_, by simp, ?_⟩
  · have hlt := hbefore q hq p List.mem_cons_self
    rw [of_decide_eq_true hid] at hlt
    exact Nat.lt_irrefl _ hlt
  · refine List.filter_eq_nil_iff.2 fun q hq hid => ?_
    have hlt := hafter q hq
    rw [of_decide_eq_true hid] at hlt
    exact Nat.lt_irrefl _ hlt

/-- Two registrations of a topic with one id are the same. -/
theorem WellFormed.eq_of_id (h : r.WellFormed) {topic : String} {p q : ListenerId × L}
    (hp : p ∈ r.entries topic) (hq : q ∈ r.entries topic) (heq : q.1 = p.1) : q = p := by
  have hmem : q ∈ (r.entries topic).filter fun q => q.1 = p.1 := by
    rw [List.mem_filter]
    exact ⟨hq, decide_eq_true heq⟩
  rw [h.filter_id hp] at hmem
  exact List.mem_singleton.1 hmem

/-- A registration keeps the registry well-formed: its id is greater than all before. -/
theorem WellFormed.add (h : r.WellFormed) (topic : String) (listener : L) :
    (r.add topic listener).2.WellFormed := by
  have hmem : ∀ topic' p, p ∈ (r.add topic listener).2.entries topic' →
      p ∈ r.entries topic' ∨ (topic' = topic ∧ p = (⟨r.issued + 1⟩, listener)) := by
    intro topic' p hp
    rw [entries_add] at hp
    by_cases ht : topic = topic'
    · subst ht
      rw [if_pos rfl, List.mem_append, List.mem_singleton] at hp
      exact hp.imp id fun heq => ⟨rfl, heq⟩
    · rw [if_neg ht] at hp
      exact .inl hp
  -- no registration has had the new id
  have hfresh : ∀ topic' p, p ∈ r.entries topic' → p.1 ≠ ⟨r.issued + 1⟩ := by
    intro topic' p hp heq
    have hle := h.issued topic' p hp
    rw [heq] at hle
    exact Nat.not_succ_le_self _ hle
  constructor
  case present =>
    intro topic'
    unfold Registry.add
    rw [KeyMap.get?_insert]
    by_cases ht : topic = topic'
    · rw [if_pos ht]
      simp
    · rw [if_neg ht]
      exact h.present topic'
  case ascending =>
    intro topic'
    rw [entries_add]
    by_cases ht : topic = topic'
    · rw [if_pos ht, List.pairwise_append]
      refine ⟨h.ascending topic, List.pairwise_singleton _ _, fun p hp q hq => ?_⟩
      rw [List.mem_singleton.1 hq]
      exact Nat.lt_succ_of_le (h.issued topic p hp)
    · rw [if_neg ht]
      exact h.ascending topic'
  case issued =>
    intro topic' p hp
    rcases hmem topic' p hp with hold | ⟨-, rfl⟩
    · exact Nat.le_succ_of_le (h.issued topic' p hold)
    · exact Nat.le_refl _
  case unique =>
    intro t t' p p' hp hp' heq
    rcases hmem t p hp with hold | ⟨rfl, rfl⟩ <;> rcases hmem t' p' hp' with hold' | ⟨rfl, rfl⟩
    · exact h.unique t t' p p' hold hold' heq
    · exact absurd heq (hfresh t p hold)
    · exact absurd heq.symm (hfresh t' p' hold')
    · rfl

/-- Taking registrations out keeps the registry well-formed. -/
theorem WellFormed.of_sublist {r' : Registry L} (h : r.WellFormed) (hissued : r'.issued = r.issued)
    (hpresent : ∀ topic, r'.topics.get? topic ≠ some [])
    (hsub : ∀ topic, (r'.entries topic).Sublist (r.entries topic)) : r'.WellFormed where
  present := hpresent
  ascending topic := (h.ascending topic).sublist (hsub topic)
  issued topic p hp := by
    rw [hissued]
    exact h.issued topic p ((hsub topic).subset hp)
  unique topic topic' p p' hp hp' heq :=
    h.unique topic topic' p p' ((hsub topic).subset hp) ((hsub topic').subset hp') heq

theorem WellFormed.removeListener (h : r.WellFormed) (topic : String) (id : ListenerId) :
    (r.removeListener topic id).2.WellFormed := by
  refine h.of_sublist (r.issued_removeListener topic id) (fun topic' => ?_) (fun topic' => ?_)
  · unfold Registry.removeListener
    split
    · exact h.present topic'
    · rename_i present hpresent
      by_cases hkept : (present.filter fun e => e.1 != id).isEmpty = true
      · simp only [if_pos hkept, KeyMap.get?_erase]
        by_cases ht : topic = topic'
        · rw [if_pos ht]
          simp
        · rw [if_neg ht]
          exact h.present topic'
      · simp only [if_neg hkept, KeyMap.get?_insert]
        by_cases ht : topic = topic'
        · rw [if_pos ht]
          intro heq
          rw [Option.some.inj heq] at hkept
          exact hkept rfl
        · rw [if_neg ht]
          exact h.present topic'
  · exact r.entries_removeListener_sublist topic topic' id

theorem WellFormed.filter (h : r.WellFormed) (keep : String → Bool) :
    WellFormed { r with topics := r.topics.filter fun topic _ => keep topic } := by
  have hget : ∀ topic, (r.topics.filter fun topic _ => keep topic).get? topic = none ∨
      (r.topics.filter fun topic _ => keep topic).get? topic = r.topics.get? topic := by
    intro topic
    rw [KeyMap.get?_filter]
    cases r.topics.get? topic with
    | none => exact .inl rfl
    | some present => cases keep topic <;> simp [Option.filter]
  refine h.of_sublist rfl (fun topic => ?_) (fun topic => ?_)
  · rcases hget topic with hnone | hsame
    · simp [hnone]
    · simp only [hsame]
      exact h.present topic
  · unfold entries
    rcases hget topic with hnone | hsame
    · simp [hnone]
    · simp only [hsame]
      exact List.Sublist.refl _

theorem WellFormed.clear (h : r.WellFormed) : r.clear.WellFormed :=
  h.of_sublist rfl (fun _ => by simp [Registry.clear]) (fun _ => List.nil_sublist _)

end Registry

end TopicStream.Subscription

namespace TopicStream.Subscription.Registry

variable {L : Type} {r : Registry L}

/-! ### Ids that are not registered any more -/

/-- An id has been issued and is not registered any more. -/
structure Withdrawn (r : Registry L) (id : ListenerId) : Prop where
  /-- It has been issued. -/
  issued : id.number ≤ r.issued
  /-- No registration has it. -/
  absent : ∀ topic, ∀ p ∈ r.entries topic, p.1 ≠ id

theorem Withdrawn.add {id : ListenerId} (h : r.Withdrawn id) (topic : String) (listener : L) :
    (r.add topic listener).2.Withdrawn id where
  issued := Nat.le_succ_of_le h.issued
  absent topic' p hp := by
    rw [entries_add] at hp
    split at hp
    · rcases List.mem_append.1 hp with hold | hnew
      · exact h.absent topic p hold
      · rw [List.mem_singleton.1 hnew]
        intro heq
        have hle := h.issued
        rw [← heq] at hle
        exact Nat.not_succ_le_self _ hle
    · exact h.absent topic' p hp

/-- Taking registrations out does not bring back an id. -/
theorem Withdrawn.of_sublist {r' : Registry L} {id : ListenerId} (h : r.Withdrawn id)
    (hissued : r'.issued = r.issued)
    (hsub : ∀ topic, (r'.entries topic).Sublist (r.entries topic)) : r'.Withdrawn id where
  issued := by
    rw [hissued]
    exact h.issued
  absent topic p hp := h.absent topic p ((hsub topic).subset hp)

/-- A registration that is taken out has its id withdrawn. -/
theorem WellFormed.withdrawn_of_sublist (h : r.WellFormed) {r' : Registry L}
    (hissued : r'.issued = r.issued)
    (hsub : ∀ topic, (r'.entries topic).Sublist (r.entries topic)) {topic : String}
    {p : ListenerId × L} (hp : p ∈ r.entries topic) (hout : p ∉ r'.entries topic) :
    r'.Withdrawn p.1 where
  issued := by
    rw [hissued]
    exact h.issued topic p hp
  absent topic' q hq heq := by
    have hold := (hsub topic').subset hq
    -- the id is registered under one topic, and there only once
    have htopic := h.unique topic' topic q p hold hp heq
    rw [htopic] at hq hold
    rw [h.eq_of_id hp hold heq] at hq
    exact hout hq

/-! ### Registries that agree but for one id -/

/-- Two registries agree but for the registrations of one id: all others are there, under the same
topics and in the same order. -/
def SameBut (id : ListenerId) (r r' : Registry L) : Prop :=
  ∀ topic, (r'.entries topic).filter (·.1 != id) = (r.entries topic).filter (·.1 != id)

theorem sameBut_add (r : Registry L) (topic : String) (listener : L) :
    SameBut ⟨r.issued + 1⟩ r (r.add topic listener).2 := by
  intro topic'
  rw [entries_add]
  split
  · rename_i heq
    rw [← heq, List.filter_append, List.filter_cons_of_neg (by simp), List.filter_nil,
      List.append_nil]
  · rfl

theorem sameBut_removeListener (r : Registry L) (topic : String) (id : ListenerId) :
    SameBut id r (r.removeListener topic id).2 := by
  intro topic'
  rw [entries_removeListener]
  split
  · rename_i heq
    rw [← heq, List.filter_filter]
    simp
  · rfl

end TopicStream.Subscription.Registry

namespace TopicStream.Engine

open Subscription

/-! ### Removals -/

/-- A removal takes registrations out and leaves the others of each topic in their order. -/
theorem Removal.entries_apply_sublist (r : Registry Listener) (what : Removal) (topic : String) :
    ((what.apply r).entries topic).Sublist (r.entries topic) := by
  cases what with
  | topic key =>
    rw [apply, Registry.entries_removeTopic]
    split
    · exact List.nil_sublist _
    · exact List.Sublist.refl _
  | all => exact List.nil_sublist _
  | starting start =>
    rw [apply, Registry.entries_removeStarting]
    split
    · exact List.nil_sublist _
    · exact List.Sublist.refl _
  | listener key id => exact r.entries_removeListener_sublist key topic id

theorem Removal.issued_apply (r : Registry Listener) (what : Removal) :
    (what.apply r).issued = r.issued := by
  cases what with
  | listener key id => exact r.issued_removeListener key id
  | _ => rfl

/-- Nothing can be removed from an empty registry. -/
theorem Removal.apply_of_isEmpty {r : Registry Listener} (h : r.isEmpty = true) (what : Removal) :
    what.apply r = r := by
  obtain ⟨⟨members, ascending⟩, issued⟩ := r
  obtain rfl : members = [] := List.isEmpty_iff.1 h
  cases what <;> rfl

/-- A removal leaves an empty registry empty. -/
theorem Removal.isEmpty_apply {r : Registry Listener} (h : r.isEmpty = true) (what : Removal) :
    (what.apply r).isEmpty = true := by
  rw [what.apply_of_isEmpty h]
  exact h

theorem Removal.wellFormed_apply {r : Registry Listener} (h : r.WellFormed) (what : Removal) :
    (what.apply r).WellFormed := by
  cases what with
  | topic key => exact h.filter fun topic => topic != key
  | all => exact h.clear
  | starting start => exact h.filter fun topic => !startsWith start topic
  | listener key id => exact h.removeListener key id

end TopicStream.Engine
