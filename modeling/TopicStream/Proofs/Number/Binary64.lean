import Mathlib.Algebra.Order.Field.Rat
import Mathlib.Algebra.Order.Ring.Cast
import Mathlib.Data.Rat.Cast.Defs
import TopicStream.Credential.Token

/-!
# Values of numbers

The rational value of a number of a JSON text. Natural numbers of at most 53 bits have a place of
their own (`Binary64.fraction_placeOfNat`), so that nothing is lost when the end of a token is taken
as a floating-point number (`Credential.wholeSeconds_eq`).
-/

namespace TopicStream

namespace Binary64

theorem mul_pow_ne_zero {n : Nat} (hn : n ≠ 0) (k : Nat) : n * Nat.pow 2 k ≠ 0 :=
  Nat.mul_ne_zero hn (Nat.two_pow_pos k).ne'

theorem pow_log2_add_le {n : Nat} (hn : n ≠ 0) (k : Nat) :
    Nat.pow 2 (n.log2 + k) ≤ n * Nat.pow 2 k := by
  rw [Nat.pow_eq, Nat.pow_add]
  exact Nat.mul_le_mul_right _ (Nat.log2_self_le hn)

theorem log2_mul_pow {n : Nat} (hn : n ≠ 0) (k : Nat) :
    (n * Nat.pow 2 k).log2 = n.log2 + k := by
  rw [Nat.log2_eq_iff (mul_pow_ne_zero hn k)]
  constructor
  · exact pow_log2_add_le hn k
  · rw [show n.log2 + k + 1 = n.log2 + 1 + k by omega, Nat.pow_add _ _ k]
    exact Nat.mul_lt_mul_of_pos_right Nat.lt_log2_self (Nat.two_pow_pos k)

theorem bitLength_mul_pow {n : Nat} (hn : n ≠ 0) (k : Nat) :
    bitLength (n * Nat.pow 2 k) = n.log2 + k + 1 := by
  rw [bitLength, if_neg (mul_pow_ne_zero hn k), log2_mul_pow hn]

theorem mul_pow_add {a b c : Nat} (h : c = a + b) (n : Nat) :
    n * Nat.pow 2 c = n * Nat.pow 2 a * Nat.pow 2 b := by
  rw [h, Nat.mul_assoc]
  exact congrArg _ (Nat.pow_add 2 a b)

/-- A quotient without remainder is not rounded. -/
theorem roundQuotient_mul_pow (n k : Nat) :
    roundQuotient (n * Nat.pow 2 k) (Nat.pow 2 k) = n := by
  have hpos : 0 < Nat.pow 2 k := Nat.two_pow_pos k
  simp only [roundQuotient, Nat.mul_mod_left, Nat.mul_zero, hpos, if_true]
  exact Nat.mul_div_cancel n hpos

/-- The scale of a natural number that is not zero. -/
theorem scaleOf_one {n : Nat} (hn : n ≠ 0) : scaleOf n 1 = n.log2 + 1022 := by
  unfold scaleOf
  -- the exponent is hidden, as the power of it is too large to be written out
  generalize hk : 1074 = k
  have hone : bitLength 1 = 1 := by decide
  have hguess : bitLength (n * Nat.pow 2 k) - bitLength 1 - 53 = n.log2 + 1021 := by
    rw [hone, bitLength_mul_pow hn]
    omega
  -- the guess is one too small
  have hnot : ¬ n * Nat.pow 2 k < 1 * Nat.pow 2 (n.log2 + 1021 + 53) := by
    rw [Nat.not_lt, Nat.one_mul, show n.log2 + 1021 + 53 = n.log2 + k by omega]
    exact pow_log2_add_le hn k
  dsimp only
  rw [hguess, if_neg hnot]

theorem fraction_snd (place : Nat) : (fraction place).2 = Nat.pow 2 1074 := by
  unfold fraction
  generalize 1074 = k
  rfl

theorem fraction_snd_pos (place : Nat) : 0 < (fraction place).2 := by
  rw [fraction_snd]
  generalize 1074 = k
  exact Nat.two_pow_pos k

/-- A significand of 53 bits and a scale make up a place, and are found in it again. -/
theorem fraction_of_significand {m scale : Nat} (hlow : binade ≤ m) (hhigh : m < 2 * binade) :
    (fraction (scale * binade + m)).1 = m * Nat.pow 2 scale := by
  have hpos : 0 < binade := by decide
  have hshift : scale * binade + m = (scale + 1) * binade + (m - binade) := by
    rw [Nat.add_mul, Nat.one_mul]
    omega
  have hdiv : (scale * binade + m) / binade = scale + 1 := by
    rw [hshift, Nat.mul_comm, Nat.mul_add_div hpos, Nat.div_eq_of_lt (by omega), Nat.add_zero]
  have hmod : (scale * binade + m) % binade = m - binade := by
    rw [hshift, Nat.mul_comm, Nat.mul_add_mod, Nat.mod_eq_of_lt (by omega)]
  have hnot : ¬ scale * binade + m < binade := by omega
  simp only [fraction, significand, Binary64.scale, if_neg hnot, hdiv, hmod]
  rw [Nat.add_sub_cancel, Nat.add_sub_cancel' hlow]

/-- A natural number of at most 53 bits has a place of its own. -/
theorem fraction_placeOfNat {n : Nat} (hn : n < 2 ^ 53) :
    (fraction (placeOfNat n)).1 = n * (fraction (placeOfNat n)).2 := by
  by_cases hzero : n = 0
  · subst hzero
    decide +kernel
  have hlog : n.log2 ≤ 52 := Nat.le_of_lt_succ ((Nat.log2_lt hzero).2 hn)
  have hplace : placeOfNat n = (n.log2 + 1022) * binade + n * Nat.pow 2 (52 - n.log2) := by
    unfold placeOfNat placeOf
    generalize hk : 1074 = k
    rw [mul_pow_add (show k = 52 - n.log2 + (n.log2 + 1022) by omega)]
    dsimp only
    rw [scaleOf_one hzero, Nat.one_mul, roundQuotient_mul_pow]
  -- the significand has its highest bit at the place of the highest bit of a binade
  have hbinade : binade = Nat.pow 2 n.log2 * Nat.pow 2 (52 - n.log2) := by
    rw [binade, show 52 = n.log2 + (52 - n.log2) by omega, Nat.add_sub_cancel_left]
    exact Nat.pow_add 2 _ _
  have hlow : binade ≤ n * Nat.pow 2 (52 - n.log2) := by
    rw [hbinade]
    exact Nat.mul_le_mul_right _ (Nat.log2_self_le hzero)
  have hhigh : n * Nat.pow 2 (52 - n.log2) < 2 * binade := by
    rw [hbinade, ← Nat.mul_assoc]
    refine Nat.mul_lt_mul_of_pos_right ?_ (Nat.two_pow_pos _)
    exact Nat.lt_of_lt_of_eq Nat.lt_log2_self Nat.pow_succ'
  rw [hplace, fraction_of_significand hlow hhigh, fraction_snd]
  -- what was shifted out of the scale is what the significand was shifted by
  generalize hk : 1074 = k
  exact (mul_pow_add (by omega) n).symm

end Binary64

namespace Number

/-- The rational value of a number. -/
def toRat : Number → ℚ
  | .integer i => i
  | .float x =>
    let (num, den) := Binary64.fraction x.place
    if x.negative then -(num / den) else num / den

end Number

namespace Credential

/-- An integer of less than 53 bits is held to 64 bits without loss. -/
theorem clamp_eq {i : Int} (hi : i.natAbs < 2 ^ 53) : clamp i = i := by
  have hmin : Int64.minValue.toInt = -2 ^ 63 := by decide
  have hmax : Int64.maxValue.toInt = 2 ^ 63 - 1 := by decide
  rw [clamp, hmin, hmax]
  omega

/-- A fraction of integral value has no remainder. -/
theorem div_eq_of_cast {num den : Nat} (hden : 0 < den) {i : Int}
    (h : (num / den : ℚ) = i) : ((num / den : Nat) : Int) = i := by
  have hne : (den : ℚ) ≠ 0 := Nat.cast_ne_zero.2 hden.ne'
  have hnum : (num : Int) = i * den := by
    rw [div_eq_iff hne] at h
    exact_mod_cast h
  rw [Int.natCast_ediv, hnum, Int.mul_ediv_cancel _ (Int.natCast_ne_zero.2 hden.ne')]

/-- The integral value of a float is what is left when it is cut toward zero. -/
theorem truncate_eq {x : Binary64} {i : Int} (h : (Number.float x).toRat = i) :
    x.truncate = i := by
  have hpos := Binary64.fraction_snd_pos x.place
  unfold Number.toRat at h
  unfold Binary64.truncate
  dsimp only at h ⊢
  split at h
  · rename_i hnegative
    have hopposite : ((Binary64.fraction x.place).1 / (Binary64.fraction x.place).2 : ℚ) =
        ((-i : Int) : ℚ) := by
      rw [Int.cast_neg, ← h, neg_neg]
    rw [if_pos hnegative, div_eq_of_cast hpos hopposite, Int.neg_neg]
  · rename_i hnegative
    rw [if_neg hnegative, div_eq_of_cast hpos h]

theorem truncate_placeOfNat {n : Nat} (hn : n < 2 ^ 53) (negative : Bool) :
    Binary64.truncate ⟨negative, Binary64.placeOfNat n⟩ = if negative then -(n : Int) else n := by
  have hquotient : (Binary64.fraction (Binary64.placeOfNat n)).1 /
      (Binary64.fraction (Binary64.placeOfNat n)).2 = n := by
    rw [Binary64.fraction_placeOfNat hn]
    exact Nat.mul_div_cancel n (Binary64.fraction_snd_pos _)
  unfold Binary64.truncate
  dsimp only
  rw [hquotient]

/-- An integral end of less than 53 bits is taken as it is. -/
theorem wholeSeconds_eq {n : Number} {i : Int} (h : n.toRat = i) (hi : i.natAbs < 2 ^ 53) :
    wholeSeconds n = i := by
  cases n with
  | float x => rw [wholeSeconds, truncate_eq h, clamp_eq hi]
  | integer j =>
    obtain rfl : j = i := Rat.intCast_injective h
    have hvalue : (if decide (j < 0) then -(j.natAbs : Int) else j.natAbs) = j := by
      by_cases hj : j < 0
      · rw [if_pos (decide_eq_true hj)]
        omega
      · rw [if_neg (by simpa using hj)]
        omega
    rw [wholeSeconds, truncate_placeOfNat hi, hvalue, clamp_eq hi]

end Credential

end TopicStream
