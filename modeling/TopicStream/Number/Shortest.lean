import TopicStream.Number.Binary64

/-!
# Shortest decimal digits

The decimal text of a binary64 number. Among the decimals that read back as the number the ones
with the fewest digits are taken, of these the nearest, and of two equally near ones the even one.
All comparisons are exact comparisons of natural numbers.
-/

namespace TopicStream.Number.Shortest

open Binary64

/-- A positive decimal, `digits * 10 ^ exponent`. -/
structure Decimal where
  /-- The digits, read as one natural number. -/
  digits : Nat
  /-- The power of ten that scales them. -/
  exponent : Int
  deriving DecidableEq, Repr

/-- The decimals that read back as a number: the bounds and the number itself as numerators over
`2 ^ 1075`, and whether the bounds themselves read back. -/
structure Interval where
  /-- Half-way to the number below. -/
  low : Nat
  /-- The number itself. -/
  mid : Nat
  /-- Half-way to the number above. -/
  high : Nat
  /-- Whether a decimal on a bound is rounded to this number. -/
  closed : Bool

/-- The interval of the positive number at a place. -/
def intervalAt (place : Nat) : Interval :=
  let here := (fraction place).1
  { low := (fraction (place - 1)).1 + here
    mid := 2 * here
    high := here + (fraction (place + 1)).1
    closed := place % 2 = 0 }

/-- How often a positive fraction below one, at most `fuel` times, must be multiplied by ten to
reach one. -/
def leadingZeros (num den : Nat) : (fuel : Nat) → Nat
  | 0 => 0
  | fuel + 1 => if den ≤ num then 0 else leadingZeros (num * 10) den fuel + 1

/-- The exponent of the first decimal digit of a positive fraction. -/
def leadingExponent (num den : Nat) : Int :=
  if den ≤ num then ((Nat.toDigits 10 (num / den)).length : Int) - 1
  else -(leadingZeros num den 400 : Int)

/-- The decimal that is a multiple of `10 ^ exponent` and lies in the interval, if there is one: of
the two multiples around the number the nearer. -/
def onGrid (i : Interval) (exponent : Int) : Option Decimal :=
  let up := Nat.pow 10 (-exponent).toNat
  let unit := Nat.pow 2 1075 * Nat.pow 10 exponent.toNat
  let below := i.mid * up / unit
  let fromBelow := i.mid * up - below * unit
  let fromAbove := (below + 1) * unit - i.mid * up
  -- A multiple on a bound of the interval reads back only if ties go to this number.
  let belowFits := i.low * up < below * unit || (i.closed && i.low * up == below * unit)
  let aboveFits := (below + 1) * unit < i.high * up ||
    (i.closed && (below + 1) * unit == i.high * up)
  let preferBelow := fromBelow < fromAbove || (fromBelow == fromAbove && below % 2 == 0)
  if belowFits && (preferBelow || !aboveFits) then some ⟨below, exponent⟩
  else if aboveFits then some ⟨below + 1, exponent⟩
  else none

/-- The first hit on ever finer grids, beginning at an exponent and trying `count` further ones. -/
def search (i : Interval) (exponent : Int) : (count : Nat) → Decimal
  | 0 => (onGrid i exponent).getD ⟨0, 0⟩
  | count + 1 => (onGrid i exponent).getD (search i (exponent - 1) count)

/-- The shortest decimal of the positive number at a place. -/
def decimalAt (place : Nat) : Decimal :=
  let i := intervalAt place
  -- Seventeen digits below the first always suffice.
  search i (leadingExponent i.mid (Nat.pow 2 1075)) 17

/-- The digits of a decimal without the zeros at their end, and the exponent of the first. -/
def significant (d : Decimal) : List Char × Int :=
  let all := Nat.toDigits 10 d.digits
  ((all.reverse.dropWhile (· == '0')).reverse, d.exponent + (all.length : Int) - 1)

/-- The least exponent of a first digit that is written without an exponent. -/
def plainFrom : Int := -5

/-- The greatest exponent of a first digit that is written without an exponent. -/
def plainTo : Int := 15

/-- The text of a positive decimal: plain with at least one digit after the point where the first
digit's exponent is moderate, else one digit before the point and a signed exponent. -/
def layOut (digits : List Char) (exponent : Int) : List Char :=
  if exponent < plainFrom ∨ plainTo < exponent then
    let rest := digits.drop 1
    let sign := if exponent < 0 then '-' else '+'
    digits.take 1 ++ (if rest.isEmpty then [] else '.' :: rest) ++
      'e' :: sign :: Nat.toDigits 10 exponent.natAbs
  else if exponent < 0 then
    '0' :: '.' :: (List.replicate (exponent.natAbs - 1) '0' ++ digits)
  else
    let whole := exponent.toNat + 1
    let after := digits.drop whole
    digits.take whole ++ List.replicate (whole - digits.length) '0' ++
      '.' :: (if after.isEmpty then ['0'] else after)

/-- The text of a number. -/
def text (x : Binary64) : List Char :=
  let magnitude :=
    if x.place = 0 then ['0', '.', '0']
    else
      let (digits, exponent) := significant (decimalAt x.place)
      layOut digits exponent
  if x.negative then '-' :: magnitude else magnitude

end TopicStream.Number.Shortest
