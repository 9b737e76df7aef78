import DiceCup.Binary.Basic

/-!
# Rounding — the nearest double of a large whole number

A whole number of more than 53 bits is rounded to a multiple of the power of two that leaves 53 bits
in front of it; half-way between two multiples the even one is taken.  Around a power of two that
makes the numbers up to half a step above it indistinguishable from it.
-/

namespace DiceCup.Binary

/-! ## 1. Rounded quotients -/

/-- A rounded quotient is one of the two integers around it. -/
theorem roundQuotient_bounds (num den : Nat) :
    num / den ≤ roundQuotient num den ∧ roundQuotient num den ≤ num / den + 1 := by
  unfold roundQuotient
  dsimp only
  split
  next => omega
  next =>
    split
    next => omega
    next => split <;> omega

/-- A quotient is rounded to at most an even number just if it is at most half a step above it. -/
theorem roundQuotient_le_iff {m num den : Nat} (hden : 0 < den) (heven : m % 2 = 0) :
    roundQuotient num den ≤ m ↔ 2 * num ≤ (2 * m + 1) * den := by
  have hbounds := roundQuotient_bounds num den
  have hrest : num % den < den := Nat.mod_lt num hden
  have hnum : den * (num / den) + num % den = num := Nat.div_add_mod num den
  have hmiddle : (2 * m + 1) * den = 2 * (den * m) + den := by
    rw [Nat.add_mul, Nat.one_mul, Nat.mul_assoc, Nat.mul_comm m den]
  -- Rounding adds at most one to the whole quotient, so only at `m` itself more is to be known.
  rcases Nat.lt_trichotomy (num / den) m with hlt | heq | hgt
  · have hstep : den * (num / den + 1) ≤ den * m := Nat.mul_le_mul_left den hlt
    rw [Nat.mul_add, Nat.mul_one] at hstep
    omega
  · -- Only here the remainder decides, and a tie goes to the even number.
    have hround : roundQuotient num den ≤ m ↔ 2 * (num % den) ≤ den := by
      unfold roundQuotient
      simp only [heq, heven, if_true]
      split
      next => omega
      next => split <;> omega
    rw [heq] at hnum
    rw [hround]
    omega
  · have hstep : den * (m + 1) ≤ den * (num / den) := Nat.mul_le_mul_left den hgt
    rw [Nat.mul_add, Nat.mul_one] at hstep
    omega

/-! ## 2. Whole numbers as doubles -/

theorem twoTo_mul (j k : Nat) : twoTo j * twoTo k = twoTo (j + k : Nat) := (Nat.pow_add 2 j k).symm

theorem twoTo_neg_natCast (k : Nat) : twoTo (-k) = 1 := by
  have hzero : (-(k : Int)).toNat = 0 := by omega
  rw [twoTo, hzero, Nat.pow_eq, Nat.pow_zero]

theorem scaleDown_natCast (n k : Nat) : scaleDown n 1 k = (n, twoTo k) := by
  rw [scaleDown, twoTo_neg_natCast, Nat.mul_one, Nat.one_mul]

/-- The last bit of a number of `k + 54` bits stands for `2 ^ (k + 1)`. -/
theorem lastBit_double {n k : Nat} (hlow : twoTo (k + 53 : Nat) ≤ n)
    (hhigh : n < twoTo (k + 54 : Nat)) : Format.double.lastBit n 1 = (k + 1 : Nat) := by
  have hpos : n ≠ 0 := Nat.ne_of_gt (Nat.lt_of_lt_of_le (Nat.two_pow_pos (k + 53)) hlow)
  have hlog : n.log2 = k + 53 := (Nat.log2_eq_iff hpos).mpr ⟨hlow, hhigh⟩
  have hguess : (n.log2 : Int) - (1 : Nat).log2 - Format.double.precision = k := by
    rw [hlog]
    show ((k + 53 : Nat) : Int) - 0 - 53 = k
    omega
  -- Scaled down by the guess the number still has one bit more than a mantissa.
  have hlong : twoTo k * twoTo Format.double.precision ≤ n := by
    rw [twoTo_mul]
    exact hlow
  have hleast : Format.double.least ≤ ((k + 1 : Nat) : Int) := by
    show (-1074 : Int) ≤ _
    omega
  rw [Format.lastBit, hguess, scaleDown_natCast]
  show max Format.double.least (if twoTo k * twoTo Format.double.precision ≤ n then (k : Int) + 1
    else k) = _
  rw [if_pos hlong]
  exact Int.max_eq_right hleast

/-- A number of `k + 54` bits is rounded to 53 of them, unless that carries into one more. -/
theorem ofNat_eq_within {n k : Nat} (hlow : twoTo (k + 53 : Nat) ≤ n)
    (hhigh : n < twoTo (k + 54 : Nat)) (hk : k < 970) : Magnitude.ofNat n =
      if roundQuotient n (twoTo (k + 1 : Nat)) = twoTo 53 then .within (twoTo 52) (k + 2 : Nat)
      else .within (roundQuotient n (twoTo (k + 1 : Nat))) (k + 1 : Nat) := by
  have hgreatest (e : Nat) (he : e ≤ 971) : ¬ Format.double.greatest < (e : Int) := by
    show ¬ (971 : Int) < e
    omega
  rw [Magnitude.ofNat, Format.round, lastBit_double hlow hhigh, scaleDown_natCast]
  -- A carry moves the last bit up by one more place.
  by_cases hcarry : roundQuotient n (twoTo (k + 1 : Nat)) = twoTo 53
  · rw [if_pos hcarry]
    simp only [hcarry]
    exact if_neg (hgreatest (k + 2) (by omega))
  · have hprecision : ¬ roundQuotient n (twoTo (k + 1 : Nat)) =
        twoTo Format.double.precision := hcarry
    rw [if_neg hcarry]
    simp only [if_neg hprecision]
    exact if_neg (hgreatest (k + 1) (by omega))

/-! ## 3. Whole numbers of 64 bits -/

theorem roundQuotient_le_top_iff (n : Nat) :
    roundQuotient n 2048 ≤ 0x10000000000000 ↔ n ≤ 0x8000000000000400 := by
  rw [roundQuotient_le_iff (by decide) (by decide)]
  omega

/-- Of the numbers from `2 ^ 63` to `2 ^ 64` those up to half a step above `2 ^ 63` are rounded to
it, and taken for the largest signed number; the others are too large. -/
theorem toInt64?_ofInt_natCast {n : Nat} (hlow : 0x8000000000000000 ≤ n)
    (hhigh : n < 0x10000000000000000) : (Value.ofInt n).toInt64? =
      if n ≤ 0x8000000000000400 then some 0x7FFFFFFFFFFFFFFF else none := by
  have hvalue : Value.ofInt n = .ofMagnitude false (.ofNat n) := by
    rw [Value.ofInt, Int.natAbs_natCast, decide_eq_false (by omega)]
  have hround := roundQuotient_le_top_iff n
  have hleast := (roundQuotient_bounds n 2048).1
  rw [hvalue, ofNat_eq_within (k := 10) hlow hhigh (by decide)]
  show (Value.ofMagnitude false (if roundQuotient n 2048 = 0x20000000000000 then _
    else .within (roundQuotient n 2048) 11)).toInt64? = _
  generalize roundQuotient n 2048 = m at hround hleast ⊢
  split
  next hcarry =>
    -- The carry makes it `2 ^ 64`.
    subst hcarry
    rw [if_neg (by omega)]
    rfl
  next =>
    show (if m * 2048 ≤ 0x8000000000000000 * 1 then
      some (min ((m * 2048 / 1 : Nat) : Int) 0x7FFFFFFFFFFFFFFF) else none) = _
    -- A mantissa of 53 bits is not below `2 ^ 52`, so it is either that or too large.
    by_cases htop : m ≤ 0x10000000000000
    · have hm : m = 0x10000000000000 := by omega
      rw [if_pos (by omega), if_pos (hround.mp htop), hm]
      rfl
    · rw [if_neg (by omega), if_neg (mt hround.mpr htop)]

end DiceCup.Binary
