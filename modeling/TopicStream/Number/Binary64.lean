/-!
# Binary64 numbers

The finite numbers of the 64-bit binary floating-point format, held by sign and place: the places
of the non-negative numbers, in ascending order, are the natural numbers below `overflow`. All
arithmetic is exact arithmetic on fractions followed by one rounding to the nearest number, a tie
going to the even place.
-/

namespace TopicStream

/-- A finite binary64 number. Zero has a sign. -/
structure Binary64 where
  /-- Whether the sign is minus. -/
  negative : Bool
  /-- How many non-negative numbers lie below the absolute value. -/
  place : Nat
  deriving DecidableEq, Repr

namespace Binary64

/-- The first place that is not taken by a finite number. -/
def overflow : Nat := 2047 * Nat.pow 2 52

/-- The places of one step of the exponent. -/
def binade : Nat := Nat.pow 2 52

/-- The absolute value of a place as `significand * 2 ^ (scale - 1074)`. -/
def significand (place : Nat) : Nat :=
  if place < binade then place else binade + place % binade

/-- The exponent of a place above the least exponent. -/
def scale (place : Nat) : Nat :=
  if place < binade then 0 else place / binade - 1

/-- The absolute value of a place as a fraction, numerator and denominator. -/
def fraction (place : Nat) : Nat × Nat :=
  (significand place * Nat.pow 2 (scale place), Nat.pow 2 1074)

/-- The quotient rounded to the nearest natural number, a tie going to the even one. -/
def roundQuotient (num den : Nat) : Nat :=
  let q := num / den
  let twice := 2 * (num % den)
  if twice < den then q
  else if den < twice then q + 1
  else if q % 2 = 0 then q else q + 1

/-- The number of bits of a natural number; none for zero. -/
def bitLength (n : Nat) : Nat :=
  if n = 0 then 0 else n.log2 + 1

/-- The scale at which the quotient `num / den`, in units of `2 ^ (scale - 1074)`, has 53 bits
before its point; scale zero if it has fewer even there. -/
def scaleOf (num den : Nat) : Nat :=
  let scaled := num * Nat.pow 2 1074
  -- The guess is exact or one too small, as bit lengths tell a quotient up to a factor of two.
  let guess := bitLength scaled - bitLength den - 53
  if scaled < den * Nat.pow 2 (guess + 53) then guess else guess + 1

/-- The place nearest to a fraction, `overflow` or more if the fraction is out of range. -/
def placeOf (num den : Nat) : Nat :=
  let scale := scaleOf num den
  -- Rounding up to the next power of two carries into the scale, which is the place wanted.
  scale * binade + roundQuotient (num * Nat.pow 2 1074) (den * Nat.pow 2 scale)

/-- The place of the number nearest to a natural number below `2 ^ 1023`. -/
def placeOfNat (n : Nat) : Nat :=
  placeOf n 1

/-- The place of the product of two absolute values. -/
def mulPlace (a b : Nat) : Nat :=
  placeOf ((fraction a).1 * (fraction b).1) ((fraction a).2 * (fraction b).2)

/-- The place of the quotient of two absolute values. -/
def divPlace (a b : Nat) : Nat :=
  placeOf ((fraction a).1 * (fraction b).2) ((fraction a).2 * (fraction b).1)

/-- The integer part, cut toward zero. -/
def truncate (x : Binary64) : Int :=
  let (num, den) := fraction x.place
  if x.negative then -((num / den : Nat) : Int) else ((num / den : Nat) : Int)

end Binary64

end TopicStream
