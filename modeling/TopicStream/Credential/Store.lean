import TopicStream.Credential.Token

/-!
# The credential store

The current token and the record it belongs to. Listeners are called with both after every change,
in order of registration, from a snapshot taken at the change: a listener that is removed while the
round runs is still called in it.
-/

namespace TopicStream.Credential

/-- What a listener does when it is called, apart from taking note. -/
inductive Reaction where
  /-- Nothing. -/
  | stay
  /-- Removes the listener of its own id. -/
  | leave
  deriving DecidableEq, Repr

/-- A call of a listener. -/
structure Notice where
  /-- The id of the listener. -/
  listener : Nat
  /-- The new token. -/
  token : String
  /-- The new record. -/
  record : Json

/-- A token, its record, and who is told about changes. -/
structure Store where
  /-- The token, empty if there is none. -/
  token : String
  /-- The record of the token. -/
  record : Json
  /-- The listeners with their ids, in order of registration. -/
  listeners : List (Nat × Reaction)
  /-- How many ids have been issued. -/
  issued : Nat

namespace Store

/-- A store with a token and without a record. -/
def ofToken (token : String) : Store := ⟨token, .null, [], 0⟩

/-- The store without a token. -/
def empty : Store := ofToken ""

/-- Whether the token is valid at a time. -/
def isValid (s : Store) (now : Int) : Bool := Credential.isValid s.token now

/-- The token, while it is valid. -/
def validToken? (s : Store) (now : Int) : Option String :=
  if s.isValid now then some s.token else none

/-- Registers a listener under a new id. -/
def register (s : Store) (reaction : Reaction) : Nat × Store :=
  (s.issued + 1,
    { s with listeners := s.listeners ++ [(s.issued + 1, reaction)], issued := s.issued + 1 })

/-- Removes a listener; says whether it was registered. -/
def unregister (s : Store) (id : Nat) : Bool × Store :=
  -- Ids are unique, so at most one listener goes.
  let kept := s.listeners.filter fun l => l.1 != id
  (kept.length != s.listeners.length, { s with listeners := kept })

/-- Calls listeners one after the other. -/
def notify (s : Store) : List (Nat × Reaction) → List Notice × Store
  | [] => ([], s)
  | (id, reaction) :: rest =>
    let after := match reaction with
      | .stay => s
      | .leave => (s.unregister id).2
    let (notices, after) := after.notify rest
    (⟨id, s.token, s.record⟩ :: notices, after)

/-- Replaces token and record and calls the listeners. -/
def save (s : Store) (token : String) (record : Json) : List Notice × Store :=
  { s with token, record }.notify s.listeners

/-- Drops token and record and calls the listeners. -/
def clear (s : Store) : List Notice × Store := s.save "" .null

/-- The store for people, without its secret. -/
def describe (s : Store) : String :=
  "AuthStore \x7b has_token: " ++ (if s.token = "" then "false" else "true") ++
    ", listeners: " ++ Nat.repr s.listeners.length ++ " \x7d"

end Store

end TopicStream.Credential
