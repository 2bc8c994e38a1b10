import Mathlib.Data.List.Nodup
import TopicStream.Credential.Store

/-!
# Who is told about changes

Whether a listener is registered can be told from the operations on a store alone: it has been
registered, its id has not been removed since, and if it removes itself when it is called, no change
has come since. A store calls exactly these listeners at a change.

## Main results

* `Store.Tracks`: a store holds what its history says; kept by every operation
  (`Store.Tracks.perform`), which also returns what the history says;
* `Store.performAll_notifies`: both for all histories of a store.
-/

namespace TopicStream.Credential

/-! ### Operations -/

/-- An operation on a store. -/
inductive Operation where
  /-- Replaces token and record. -/
  | save (token : String) (record : Json)
  /-- Drops token and record. -/
  | clear
  /-- Registers a listener. -/
  | register (reaction : Reaction)
  /-- Removes the listener of an id. -/
  | unregister (id : Nat)

/-- What an operation does besides changing the store. -/
inductive Outcome where
  /-- It calls listeners. -/
  | notified (notices : List Notice)
  /-- It returns a new id. -/
  | registered (id : Nat)
  /-- It returns whether there was something to remove. -/
  | removed (found : Bool)

/-- An operation on a store. -/
def Store.perform (s : Store) : Operation → Outcome × Store
  | .save token record =>
    let (notices, s) := s.save token record
    (.notified notices, s)
  | .clear =>
    let (notices, s) := s.clear
    (.notified notices, s)
  | .register reaction =>
    let (id, s) := s.register reaction
    (.registered id, s)
  | .unregister id =>
    let (found, s) := s.unregister id
    (.removed found, s)

/-- Operations one after the other, with what they do. -/
def Store.performAll (s : Store) : List Operation → List Outcome × Store
  | [] => ([], s)
  | op :: ops =>
    ((s.perform op).1 :: ((s.perform op).2.performAll ops).1, ((s.perform op).2.performAll ops).2)

/-! ### Histories -/

/-- The token and the record that an operation leaves behind, if it changes them. -/
def Operation.change? : Operation → Option (String × Json)
  | .save token record => some (token, record)
  | .clear => some ("", .null)
  | _ => none

/-- Whether an operation is a registration. -/
def Operation.isRegister : Operation → Bool
  | .register _ => true
  | _ => false

/-- Whether a listener with an id and a reaction is not registered any more after an operation. -/
def Operation.Withdraws (op : Operation) (id : Nat) (reaction : Reaction) : Prop :=
  op = .unregister id ∨ op.change?.isSome = true ∧ reaction = .leave

/-- The token and the record that are left by the last change. -/
def held (token : String) (ops : List Operation) : String × Json :=
  (ops.filterMap Operation.change?).getLastD (token, .null)

/-- Whether a listener has been registered under an id by a history and has not been withdrawn
since. The id is the number of its registration, counted from one. -/
def Registered (ops : List Operation) (id : Nat) (reaction : Reaction) : Prop :=
  ∃ before after, ops = before ++ .register reaction :: after ∧
    id = before.countP Operation.isRegister + 1 ∧ ∀ op ∈ after, ¬ op.Withdraws id reaction

/-- What an operation does after a history. -/
inductive Does (ops : List Operation) : Operation → Outcome → Prop where
  /-- A registration returns its number. -/
  | register (reaction : Reaction) :
      Does ops (.register reaction) (.registered (ops.countP Operation.isRegister + 1))
  /-- A removal returns whether the id is registered. -/
  | unregister {id : Nat} {found : Bool}
      (hfound : found = true ↔ ∃ reaction, Registered ops id reaction) :
      Does ops (.unregister id) (.removed found)
  /-- A change calls each registered listener once, in the order of registration, with the new token
  and the new record. -/
  | change {op : Operation} {token : String} {record : Json} {ids : List Nat}
      (hchange : op.change? = some (token, record)) (hordered : ids.Pairwise (· < ·))
      (hids : ∀ id, id ∈ ids ↔ ∃ reaction, Registered ops id reaction) :
      Does ops op (.notified (ids.map fun id => ⟨id, token, record⟩))

/-- One more operation withdraws listeners or registers one. -/
theorem registered_concat {ops : List Operation} {op : Operation} {id : Nat} {reaction : Reaction} :
    Registered (ops ++ [op]) id reaction ↔
      Registered ops id reaction ∧ ¬ op.Withdraws id reaction ∨
        op = .register reaction ∧ id = ops.countP Operation.isRegister + 1 := by
  constructor
  · rintro ⟨before, after, heq, hid, hafter⟩
    rcases List.eq_nil_or_concat after with rfl | ⟨after, last, rfl⟩
    · obtain ⟨rfl, hop⟩ := List.append_inj' heq rfl
      exact .inr ⟨List.singleton_inj.1 hop, hid⟩
    · rw [List.concat_eq_append, ← List.cons_append, ← List.append_assoc] at heq
      obtain ⟨hops, hop⟩ := List.append_inj' heq rfl
      obtain rfl := List.singleton_inj.1 hop
      rw [List.concat_eq_append, List.forall_mem_append] at hafter
      exact .inl ⟨⟨before, after, hops, hid, hafter.1⟩, hafter.2 op (List.mem_singleton_self op)⟩
  · rintro (⟨⟨before, after, rfl, hid, hafter⟩, hop⟩ | ⟨rfl, hid⟩)
    · refine ⟨before, after ++ [op], by simp, hid, List.forall_mem_append.2 ⟨hafter, ?_⟩⟩
      exact List.forall_mem_singleton.2 hop
    · exact ⟨ops, [], rfl, hid, nofun⟩

/-- A change withdraws the listeners that remove themselves. -/
theorem withdraws_of_change {op : Operation} {change : String × Json} (h : op.change? = some change)
    {id : Nat} {reaction : Reaction} : op.Withdraws id reaction ↔ reaction = .leave := by
  constructor
  · rintro (rfl | ⟨-, hleave⟩)
    · cases h
    · exact hleave
  · exact fun hleave => .inr ⟨by rw [h]; rfl, hleave⟩

/-- Ids of registered listeners have been issued. -/
theorem Registered.le {ops : List Operation} {id : Nat} {reaction : Reaction}
    (h : Registered ops id reaction) : id ≤ ops.countP Operation.isRegister := by
  obtain ⟨before, after, rfl, rfl, -⟩ := h
  rw [List.countP_append, List.countP_cons_of_pos rfl]
  omega

theorem held_concat (token : String) (ops : List Operation) (op : Operation) :
    held token (ops ++ [op]) = op.change?.getD (held token ops) := by
  unfold held
  rw [List.filterMap_append]
  cases h : op.change? with
  | none => simp [h]
  | some change => simp [h]

namespace Store

/-! ### Rounds of calls -/

/-- The ids of the listeners that remove themselves. -/
def leavers (listeners : List (Nat × Reaction)) : List Nat :=
  (listeners.filter fun l => l.2 = .leave).map (·.1)

/-- As ids are unique, the listeners with these ids are those that remove themselves. -/
theorem mem_leavers {listeners : List (Nat × Reaction)}
    (hordered : listeners.Pairwise fun l l' => l.1 < l'.1) {id : Nat} {reaction : Reaction}
    (hmem : (id, reaction) ∈ listeners) : id ∈ leavers listeners ↔ reaction = .leave := by
  have hnodup : (listeners.map (·.1)).Nodup :=
    (List.pairwise_map.2 hordered).imp fun {_ _} => Nat.ne_of_lt
  simp only [leavers, List.mem_map, List.mem_filter, decide_eq_true_eq]
  constructor
  · rintro ⟨l, ⟨hl, hleave⟩, hid⟩
    obtain rfl : l = (id, reaction) := List.inj_on_of_nodup_map hnodup hl hmem hid
    exact hleave
  · exact fun hleave => ⟨_, ⟨hmem, hleave⟩, rfl⟩

/-- All listeners of a snapshot are called with the token and the record of the change; those that
remove themselves are gone afterwards. -/
theorem notify_eq (s : Store) (snapshot : List (Nat × Reaction)) :
    s.notify snapshot = (snapshot.map fun l => ⟨l.1, s.token, s.record⟩,
      { s with listeners := s.listeners.filter fun l => l.1 ∉ leavers snapshot }) := by
  induction snapshot generalizing s with
  | nil =>
    have hall : s.listeners.filter (fun l => l.1 ∉ leavers []) = s.listeners :=
      List.filter_eq_self.2 fun l _ => by simp [leavers]
    rw [hall]
    rfl
  | cons l snapshot ih =>
    obtain ⟨id, reaction⟩ := l
    cases reaction with
    | stay =>
      rw [notify, ih]
      simp [leavers]
    | leave =>
      have hleavers : leavers ((id, .leave) :: snapshot) = id :: leavers snapshot := rfl
      -- the others are called without this one, which has been called from the snapshot
      have hkept : (s.listeners.filter fun l => l.1 != id).filter
          (fun l => l.1 ∉ leavers snapshot) =
            s.listeners.filter fun l => l.1 ∉ id :: leavers snapshot := by
        rw [List.filter_filter]
        refine List.filter_congr fun l _ => Bool.eq_iff_iff.2 ?_
        simp [and_comm]
      rw [notify, ih, hleavers, ← hkept]
      rfl

/-! ### Histories of a store -/

/-- A store holds what its history since the given token says. -/
structure Tracks (s : Store) (token : String) (ops : List Operation) : Prop where
  /-- As many ids have been issued as listeners have been registered. -/
  issued : s.issued = ops.countP Operation.isRegister
  /-- The listeners are in the order of their ids. -/
  ordered : s.listeners.Pairwise fun l l' => l.1 < l'.1
  /-- The listeners are those that are registered. -/
  listeners : ∀ id reaction, (id, reaction) ∈ s.listeners ↔ Registered ops id reaction
  /-- Token and record are those of the last change. -/
  held : (s.token, s.record) = held token ops

section Tracks

variable {s : Store} {token : String} {ops : List Operation}

theorem tracks_ofToken (token : String) : (ofToken token).Tracks token [] where
  issued := rfl
  ordered := .nil
  listeners _ _ := ⟨nofun, fun ⟨_, _, heq, _⟩ => by simp at heq⟩
  held := rfl

/-- A registration puts a listener behind all others. -/
theorem Tracks.register (h : s.Tracks token ops) (reaction : Reaction) :
    (s.register reaction).2.Tracks token (ops ++ [.register reaction]) where
  issued := by
    rw [List.countP_append, ← h.issued]
    rfl
  ordered := by
    refine List.pairwise_append.2 ⟨h.ordered, List.pairwise_singleton _ _, fun l hl l' hl' => ?_⟩
    have hle := ((h.listeners l.1 l.2).1 hl).le
    rw [List.mem_singleton.1 hl', h.issued]
    exact Nat.lt_succ_of_le hle
  listeners id reaction' := by
    have hnot : ¬ (Operation.register reaction).Withdraws id reaction' := by
      rintro (heq | ⟨hchange, -⟩)
      · cases heq
      · cases hchange
    rw [registered_concat, ← h.listeners, and_iff_left hnot, ← h.issued]
    simp only [Store.register, List.mem_append, List.mem_singleton, Prod.mk.injEq,
      Operation.register.injEq]
    exact or_congr_right ⟨fun ⟨hid, hr⟩ => ⟨hr.symm, hid⟩, fun ⟨hr, hid⟩ => ⟨hid, hr.symm⟩⟩
  held := by
    rw [held_concat]
    exact h.held

/-- A removal takes one listener out. -/
theorem Tracks.unregister (h : s.Tracks token ops) (id : Nat) :
    (s.unregister id).2.Tracks token (ops ++ [.unregister id]) where
  issued := by
    rw [List.countP_append, ← h.issued]
    rfl
  ordered := h.ordered.filter _
  listeners id' reaction := by
    have hiff : (Operation.unregister id).Withdraws id' reaction ↔ id' = id := by
      constructor
      · rintro (heq | ⟨hchange, -⟩)
        · exact (Operation.unregister.inj heq).symm
        · cases hchange
      · rintro rfl
        exact .inl rfl
    rw [registered_concat, ← h.listeners, hiff, or_iff_left fun hop => nomatch hop.1]
    simp [Store.unregister]
  held := by
    rw [held_concat]
    exact h.held

/-- A change takes those listeners out that remove themselves. -/
theorem Tracks.save (h : s.Tracks token ops) {op : Operation} {newToken : String}
    {newRecord : Json} (hop : op.change? = some (newToken, newRecord)) :
    (s.save newToken newRecord).2.Tracks token (ops ++ [op]) := by
  have hregister : op.isRegister = false := by
    cases op with
    | register => cases hop
    | _ => rfl
  have hafter : (s.save newToken newRecord).2 = { s with
      token := newToken
      record := newRecord
      listeners := s.listeners.filter fun l => l.1 ∉ leavers s.listeners } := by
    rw [Store.save, notify_eq]
  rw [hafter]
  exact {
    issued := by simpa [List.countP_append, hregister] using h.issued
    ordered := h.ordered.filter _
    listeners := fun id reaction => by
      have hmem : (id, reaction) ∈ s.listeners → (id ∈ leavers s.listeners ↔ reaction = .leave) :=
        mem_leavers h.ordered
      have hnot : ¬ (op = .register reaction ∧ id = ops.countP Operation.isRegister + 1) := by
        rintro ⟨rfl, -⟩
        cases hop
      rw [registered_concat, withdraws_of_change hop, ← h.listeners, or_iff_left hnot,
        List.mem_filter]
      simpa using fun hlistener => not_congr (hmem hlistener)
    held := by rw [held_concat, hop, Option.getD_some] }

/-- A change calls the registered listeners in the order of their ids. -/
theorem Tracks.does_save (h : s.Tracks token ops) {op : Operation} {newToken : String}
    {newRecord : Json} (hop : op.change? = some (newToken, newRecord)) :
    Does ops op (.notified (s.save newToken newRecord).1) := by
  have hnotices : (s.save newToken newRecord).1 =
      (s.listeners.map (·.1)).map fun id => ⟨id, newToken, newRecord⟩ := by
    rw [Store.save, notify_eq, List.map_map]
    rfl
  rw [hnotices]
  refine .change hop (List.pairwise_map.2 h.ordered) fun id => ?_
  simp only [List.mem_map, Prod.exists, exists_and_right, exists_eq_right, h.listeners]

/-- A listener is found under an id if it is registered. -/
theorem Tracks.found_iff (h : s.Tracks token ops) (id : Nat) :
    (s.unregister id).1 = true ↔ ∃ reaction, Registered ops id reaction := by
  have hfound : (s.unregister id).1 = true ↔ ∃ l ∈ s.listeners, l.1 = id := by
    rw [Store.unregister, bne_iff_ne, Ne, List.length_filter_eq_length_iff]
    simp
  rw [hfound, Prod.exists]
  simp only [← h.listeners]
  constructor
  · rintro ⟨_, reaction, hmem, rfl⟩
    exact ⟨reaction, hmem⟩
  · exact fun ⟨reaction, hmem⟩ => ⟨id, reaction, hmem, rfl⟩

/-- Every operation does what the history says, and the store holds the longer history after it. -/
theorem Tracks.perform (h : s.Tracks token ops) (op : Operation) :
    Does ops op (s.perform op).1 ∧ (s.perform op).2.Tracks token (ops ++ [op]) := by
  cases op with
  | save newToken newRecord => exact ⟨h.does_save rfl, h.save rfl⟩
  | clear => exact ⟨h.does_save rfl, h.save rfl⟩
  | register reaction =>
    refine ⟨?_, h.register reaction⟩
    rw [Store.perform, Store.register, h.issued]
    exact .register reaction
  | unregister id => exact ⟨.unregister (h.found_iff id), h.unregister id⟩

theorem Tracks.performAll (h : s.Tracks token ops) (more : List Operation) :
    (s.performAll more).2.Tracks token (ops ++ more) ∧
    ∀ before op after, more = before ++ op :: after →
      ∃ outcome, (s.performAll more).1[before.length]? = some outcome ∧
        Does (ops ++ before) op outcome := by
  induction more generalizing s ops with
  | nil => exact ⟨by rwa [List.append_nil], fun before op after heq => by simp at heq⟩
  | cons op more ih =>
    obtain ⟨hdoes, hstep⟩ := h.perform op
    obtain ⟨hlast, houtcomes⟩ := ih hstep
    rw [List.append_assoc] at hlast
    refine ⟨hlast, fun before op' after heq => ?_⟩
    cases before with
    | nil =>
      obtain ⟨rfl, -⟩ := List.cons.inj heq
      exact ⟨_, rfl, by rwa [List.append_nil]⟩
    | cons first before =>
      obtain ⟨rfl, hmore⟩ := List.cons.inj heq
      obtain ⟨outcome, hplace, hdoes'⟩ := houtcomes before op' after hmore
      exact ⟨outcome, hplace, by rwa [List.append_assoc] at hdoes'⟩

end Tracks

/-- All operations on a store do what its history says. The listeners that are registered at the end
are those that have been registered and not been withdrawn since, and the token and the record are
those of the last change. -/
theorem performAll_notifies (token : String) (ops : List Operation) :
    (∀ before op after, ops = before ++ op :: after →
      ∃ outcome, ((ofToken token).performAll ops).1[before.length]? = some outcome ∧
        Does before op outcome) ∧
    (∀ id reaction, (id, reaction) ∈ ((ofToken token).performAll ops).2.listeners ↔
      Registered ops id reaction) ∧
    (((ofToken token).performAll ops).2.token, ((ofToken token).performAll ops).2.record) =
      Credential.held token ops := by
  obtain ⟨hlast, houtcomes⟩ := (tracks_ofToken token).performAll ops
  exact ⟨houtcomes, hlast.listeners, hlast.held⟩

/-- A listener that removes itself at the first change cannot be removed again, and the next change
calls the other one only. -/
theorem performAll_notifies_leaving :
    Does [.register .leave, .register .stay, .save "t1" .null] (.unregister 1) (.removed false) ∧
      Does [.register .leave, .register .stay, .save "t1" .null, .unregister 1] .clear
        (.notified [⟨2, "", .null⟩]) := by
  obtain ⟨houtcomes, -⟩ := performAll_notifies ""
    [.register .leave, .register .stay, .save "t1" .null, .unregister 1, .clear]
  obtain ⟨_, hremoved, hremoval⟩ := houtcomes
    [.register .leave, .register .stay, .save "t1" .null] (.unregister 1) [.clear] rfl
  obtain ⟨_, hnotified, hclear⟩ := houtcomes
    [.register .leave, .register .stay, .save "t1" .null, .unregister 1] .clear [] rfl
  cases hremoved
  cases hnotified
  exact ⟨hremoval, hclear⟩

end Store

end TopicStream.Credential
