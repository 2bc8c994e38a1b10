/-!
# Hexadecimal digits

Digits of both cases are read. Which case is written depends on the format.
-/

namespace TopicStream.Text.Hex

/-- The lower-case digit of a number below sixteen. -/
def lower (n : Nat) : Char :=
  Char.ofNat (if n < 10 then 0x30 + n else 0x57 + n)

/-- The upper-case digit of a number below sixteen. -/
def upper (n : Nat) : Char :=
  Char.ofNat (if n < 10 then 0x30 + n else 0x37 + n)

/-- The value of a digit of either case. -/
def value? (c : Char) : Option Nat :=
  let n := c.toNat
  if 0x30 ≤ n ∧ n ≤ 0x39 then some (n - 0x30)
  else if 0x41 ≤ n ∧ n ≤ 0x46 then some (n - 0x37)
  else if 0x61 ≤ n ∧ n ≤ 0x66 then some (n - 0x57)
  else none

end TopicStream.Text.Hex
