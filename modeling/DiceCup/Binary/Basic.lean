/-!
# Binary floating point — exact values and one rounding

A finite value is a mantissa times a power of two.  `Format.round` rounds a positive quotient of
naturals to the nearest value of a format, a tie to the even mantissa; the operations below compute
exactly and round once.
-/

namespace DiceCup.Binary

structure Format where
  precision : Nat
  least : Int
  greatest : Int

def Format.double : Format := ⟨53, -1074, 971⟩

def Format.single : Format := ⟨24, -149, 104⟩

inductive Value where
  | nan
  | infinite (negative : Bool)
  /-- The value `mantissa * 2 ^ exponent`, or its opposite. -/
  | finite (negative : Bool) (mantissa : Nat) (exponent : Int)
deriving DecidableEq, Repr

/-- A positive value without its sign: finite, or too large for the format. -/
inductive Magnitude where
  | tooLarge
  | within (mantissa : Nat) (exponent : Int)
deriving DecidableEq, Repr

/-- Two to a power, and one for a negative power. -/
def twoTo (power : Int) : Nat := Nat.pow 2 power.toNat

/-- `num / den` rounded to an integer, a tie to the even one. -/
def roundQuotient (num den : Nat) : Nat :=
  let low := num / den
  if 2 * (num % den) < den then low
  else if den < 2 * (num % den) then low + 1
  else if low % 2 = 0 then low else low + 1

def scaleDown (num den : Nat) (exponent : Int) : Nat × Nat :=
  (num * twoTo (-exponent), den * twoTo exponent)

namespace Format

def lastBit (f : Format) (num den : Nat) : Int :=
  let guess := (num.log2 : Int) - den.log2 - f.precision
  let (n, d) := scaleDown num den guess
  max f.least (if d * twoTo f.precision ≤ n then guess + 1 else guess)

def round (f : Format) (num den : Nat) : Magnitude :=
  let exponent := f.lastBit num den
  let (n, d) := scaleDown num den exponent
  let mantissa := roundQuotient n d
  let (mantissa, exponent) :=
    if mantissa = twoTo f.precision then (twoTo (f.precision - 1), exponent + 1)
    else (mantissa, exponent)
  if f.greatest < exponent then .tooLarge else .within mantissa exponent

/-- The gap to the value below is half the gap to the value above. -/
def narrowBelow (f : Format) (mantissa : Nat) (exponent : Int) : Bool :=
  mantissa = twoTo (f.precision - 1) && f.least < exponent

end Format

namespace Magnitude

def ofNat (n : Nat) : Magnitude := Format.double.round n 1

def tenTo (k : Nat) : Magnitude := Format.double.round (Nat.pow 10 k) 1

def product : Magnitude → Magnitude → Magnitude
  | .within m q, .within n r => Format.double.round (m * n * twoTo (q + r)) (twoTo (-(q + r)))
  | _, _ => .tooLarge

def quotient : Magnitude → Magnitude → Magnitude
  | .within m q, .within n r => Format.double.round (m * twoTo (q - r)) (n * twoTo (r - q))
  | _, _ => .tooLarge

end Magnitude

namespace Value

def ofMagnitude (negative : Bool) : Magnitude → Value
  | .tooLarge => .infinite negative
  | .within m q => .finite negative m q

def ofInt (n : Int) : Value := ofMagnitude (n < 0) (.ofNat n.natAbs)

def toSingle : Value → Value
  | .finite negative m q =>
    ofMagnitude negative (Format.single.round (m * twoTo q) (twoTo (-q)))
  | other => other

/-- The integer part of a value between `-2 ^ 63` and `2 ^ 63`, both ends included; the upper end
itself becomes the largest signed 64-bit integer. -/
def toInt64? : Value → Option Int
  | .finite negative m q =>
    if m * twoTo q ≤ twoTo 63 * twoTo (-q) then
      let whole := m * twoTo q / twoTo (-q)
      some (if negative then -whole else min whole 0x7FFFFFFFFFFFFFFF)
    else none
  | _ => none

end Value

end DiceCup.Binary
