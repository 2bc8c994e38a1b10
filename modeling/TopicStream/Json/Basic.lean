import TopicStream.Number.Binary64
import TopicStream.KeyMap

/-!
# JSON values

A value is null, a truth value, a number, a string, an array or an object. Integers that fit into
64 bits, signed or unsigned, are kept apart from floating-point numbers. The members of an object
are listed in ascending order of their keys.
-/

namespace TopicStream

/-- A number of a JSON text. -/
inductive Number where
  /-- An integer between `-2 ^ 63` and `2 ^ 64 - 1`. -/
  | integer (value : Int)
  /-- Any other number, to the precision of the floating-point format. -/
  | float (value : Binary64)
  deriving DecidableEq, Repr

/-- A JSON value. -/
inductive Json where
  /-- The value `null`. -/
  | null
  /-- A truth value. -/
  | bool (value : Bool)
  /-- A number. -/
  | number (value : Number)
  /-- A string. -/
  | string (value : String)
  /-- An array. -/
  | array (items : List Json)
  /-- An object. -/
  | object (members : List (String × Json))
  deriving Inhabited, Repr

namespace Json

/-- The object without members. -/
def emptyObject : Json := .object []

/-- The object of a map. -/
def ofMap (m : KeyMap Json) : Json := .object m.members

/-- The object of a map to strings. -/
def ofTexts (m : KeyMap String) : Json := .object (m.members.map fun p => (p.1, .string p.2))

/-- The member of an object under a key; other values have no members. -/
def member? (key : String) : Json → Option Json
  | .object members => Members.get? key members
  | _ => none

/-- The text of a string value. -/
def text? : Json → Option String
  | .string s => some s
  | _ => none

/-- Whether a value is an object. -/
def isObject : Json → Bool
  | .object _ => true
  | _ => false

end Json

end TopicStream
