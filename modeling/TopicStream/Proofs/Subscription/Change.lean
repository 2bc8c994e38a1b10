import TopicStream.Proofs.Json.Strings
import TopicStream.Subscription.Change

/-!
# Which payloads describe changes

The payloads of changes, put down form by form: an object is read by the keys of its members, an
array by the places of its items. The reader of changes accepts exactly these
(`Change.ofJson_eq_ok_iff`).
-/

namespace TopicStream.Subscription.Change

/-- The payloads of a change. A record that is not given is null. -/
inductive Describes : Json → Change → Prop where
  /-- An object whose member `action` is a string; members other than `record` do not matter. -/
  | object {members : List (String × Json)} {action : String}
      (haction : Members.get? "action" members = some (.string action)) :
      Describes (.object members) ⟨action, (Members.get? "record" members).getD .null⟩
  /-- An array of a string. -/
  | action (action : String) : Describes (.array [.string action]) ⟨action, .null⟩
  /-- An array of a string and a record. -/
  | pair (action : String) (record : Json) :
      Describes (.array [.string action, record]) ⟨action, record⟩

theorem action?_eq_ok_iff {v : Json} {action : String} :
    action? v = .ok action ↔ v = .string action := by
  cases v <;> simp [action?]

/-- A payload is read as a change exactly if it describes the change. -/
theorem ofJson_eq_ok_iff {payload : Json} {c : Change} :
    ofJson payload = .ok c ↔ Describes payload c := by
  constructor
  · intro h
    cases payload with
    | array items =>
      -- the length is looked at after the first item
      rcases items with _ | ⟨first, rest⟩
      · cases h
      · rw [ofJson] at h
        obtain ⟨action, haction, hrest⟩ := Json.bind_eq_ok_iff.1 h
        obtain rfl := action?_eq_ok_iff.1 haction
        rcases rest with _ | ⟨record, _ | ⟨_, _⟩⟩
        · cases hrest
          exact .action action
        · cases hrest
          exact .pair action record
        · cases hrest
    | object members =>
      rw [ofJson] at h
      cases hmember : Members.get? "action" members with
      | none =>
        rw [hmember] at h
        cases h
      | some v =>
        rw [hmember] at h
        obtain ⟨action, haction, hchange⟩ := Json.bind_eq_ok_iff.1 h
        obtain rfl := action?_eq_ok_iff.1 haction
        cases hchange
        exact .object hmember
    | _ => cases h
  · intro h
    cases h with
    | object haction =>
      rw [ofJson, haction]
      rfl
    | action action => rfl
    | pair action record => rfl

end TopicStream.Subscription.Change
