import TopicStream.KeyMap
import TopicStream.Text.Quoted

/-!
# The listener registry

Which listeners are registered under which topic key. Every registration has an id of its own, so
that one listener may be registered several times; the listeners of a topic are kept in the order
of their registration, and a topic is present only while it has a listener.
-/

namespace TopicStream.Subscription

/-- The identity of one registration. Ids are issued in ascending order and never again. -/
structure ListenerId where
  /-- How many registrations there had been, this one included. -/
  number : Nat
  deriving DecidableEq, Repr

/-- The short form of an id. -/
def ListenerId.render (id : ListenerId) : String := "#" ++ Nat.repr id.number

/-- The descriptive form of an id. -/
def ListenerId.describe (id : ListenerId) : String := "ListenerId(" ++ Nat.repr id.number ++ ")"

/-- Whether a text begins with another. -/
def startsWith (start text : String) : Bool := start.toList.isPrefixOf text.toList

/-- The registrations of listeners of type `L`. -/
structure Registry (L : Type) where
  /-- The registrations of each topic, in order. -/
  topics : KeyMap (List (ListenerId × L))
  /-- How many ids have been issued. -/
  issued : Nat

namespace Registry

variable {L : Type}

/-- The registry before the first registration. -/
def empty : Registry L := ⟨.empty, 0⟩

instance : Inhabited (Registry L) := ⟨empty⟩

/-- The registrations of a topic, in order. -/
def entries (r : Registry L) (topic : String) : List (ListenerId × L) :=
  (r.topics.get? topic).getD []

/-- The listeners of a topic, in order of registration. -/
def listeners (r : Registry L) (topic : String) : List L :=
  (r.entries topic).map (·.2)

/-- Registers a listener under a new id. -/
def add (r : Registry L) (topic : String) (listener : L) : ListenerId × Registry L :=
  let id : ListenerId := ⟨r.issued + 1⟩
  (id, ⟨r.topics.insert topic (r.entries topic ++ [(id, listener)]), r.issued + 1⟩)

/-- Removes a topic; says whether it was present. -/
def removeTopic (r : Registry L) (topic : String) : Bool × Registry L :=
  (r.topics.contains topic, { r with topics := r.topics.erase topic })

/-- Removes all topics that begin with a text; says how many. -/
def removeStarting (r : Registry L) (start : String) : Nat × Registry L :=
  let kept := r.topics.filter fun topic _ => !startsWith start topic
  (r.topics.size - kept.size, { r with topics := kept })

/-- Removes one registration, and its topic with the last; says whether it was there. -/
def removeListener (r : Registry L) (topic : String) (id : ListenerId) : Bool × Registry L :=
  match r.topics.get? topic with
  | none => (false, r)
  | some present =>
    let kept := present.filter fun e => e.1 != id
    let topics := if kept.isEmpty then r.topics.erase topic else r.topics.insert topic kept
    (kept.length != present.length, { r with topics })

/-- Removes all registrations. Ids issued before stay issued. -/
def clear (r : Registry L) : Registry L := { r with topics := .empty }

/-- The topics with a listener, ascending. -/
def activeTopics (r : Registry L) : List String :=
  (r.topics.filter fun _ present => !present.isEmpty).keys

/-- Whether a topic is present. -/
def contains (r : Registry L) (topic : String) : Bool := r.topics.contains topic

/-- The number of topics. -/
def size (r : Registry L) : Nat := r.topics.size

/-- Whether there are no topics. -/
def isEmpty (r : Registry L) : Bool := r.topics.isEmpty

/-- The number of registrations. -/
def count (r : Registry L) : Nat := r.topics.members.foldl (fun n m => n + m.2.length) 0

/-- The topics and the numbers of their listeners, for people. -/
def describe (r : Registry L) : String :=
  "SubscriptionRegistry \x7b topics: \x7b" ++
    ", ".intercalate
      (r.topics.members.map fun m => Text.Quoted.encode m.1 ++ ": " ++ Nat.repr m.2.length) ++
    "\x7d \x7d"

end Registry

end TopicStream.Subscription
