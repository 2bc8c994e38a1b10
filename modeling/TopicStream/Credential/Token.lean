import TopicStream.Json.Parser
import TopicStream.Text.Base64

/-!
# Tokens

A token has three parts between dots, of which the middle one carries claims: a JSON value, in
unpadded base64 (padding at its end is passed over). A token is valid as long as the time that its
claims give for its end lies in the future. Signatures are not looked at.
-/

namespace TopicStream.Credential

/-- The text before a dot, and the text after it. -/
def cutAtDot (text : List Char) : Option (List Char × List Char) :=
  match text.dropWhile (· != '.') with
  | [] => none
  | _ :: rest => some (text.takeWhile (· != '.'), rest)

/-- The middle one of exactly three parts between dots. -/
def middlePart? (token : List Char) : Option (List Char) := do
  let (_, rest) ← cutAtDot token
  let (middle, last) ← cutAtDot rest
  if last.contains '.' then none else some middle

/-- A text without the padding at its end. -/
def dropPadding (text : List Char) : List Char :=
  (text.reverse.dropWhile (· == '=')).reverse

/-- The claims of a token. -/
def claims? (token : List Char) : Option Json := do
  let middle ← middlePart? token
  let bytes ← Text.Base64.decode? (dropPadding middle)
  Json.parseBytes? bytes

/-- An integer held to the range of 64 bits with a sign. -/
def clamp (i : Int) : Int := max Int64.minValue.toInt (min i Int64.maxValue.toInt)

/-- The whole seconds of a number that is taken as a floating-point number. -/
def wholeSeconds : Number → Int
  | .integer i => clamp (Binary64.truncate ⟨i < 0, Binary64.placeOfNat i.natAbs⟩)
  | .float x => clamp x.truncate

/-- The end that claims give, in seconds. -/
def expiry? (claims : Json) : Option Int :=
  match claims.member? "exp" with
  | some (.number n) => some (wholeSeconds n)
  | _ => none

/-- Whether a token is valid at a time. -/
def isValid (token : String) (now : Int) : Bool :=
  match (claims? token.toList).bind expiry? with
  | some expiry => now < expiry
  | none => false

end TopicStream.Credential
