import DiceCup.Binary.Basic
import DiceCup.Text.Digits

/-!
# Shortest decimals — the text of a floating-point value

Among the decimals that round to a value, `shortest` takes the fewest digits and, of those, the
nearest.  All comparisons are between naturals on one scale: four times the mantissa, the two ends
of the interval that rounds to it, and the candidates are multiplied by the same power of two or of
five.  A `Layout` then says how digits and exponent are written down.
-/

namespace DiceCup.Binary

open Text

inductive Tie where
  | toEven
  | up
deriving DecidableEq, Repr

structure Decimal where
  digits : Nat
  exponent : Int
deriving DecidableEq, Repr

/-- A value and the ends of the interval that rounds to it, on a common decimal scale. -/
structure Neighbourhood where
  low : Nat
  value : Nat
  high : Nat
  /-- The ends themselves round to the value. -/
  closed : Bool
  /-- The power of ten of the scale. -/
  exponent : Int

namespace Neighbourhood

def contains (h : Neighbourhood) (n : Nat) : Bool :=
  (h.low < n && n < h.high) || (h.closed && (n = h.low || n = h.high))

/-- The candidate of a grid: the value's neighbour on it that lies in the interval and is nearer. -/
def candidate? (h : Neighbourhood) (tie : Tie) (grid : Nat) : Option Nat :=
  let below := h.value / grid
  let above := below + 1
  match h.contains (below * grid), h.contains (above * grid) with
  | true, true =>
    match compare (h.value - below * grid) (above * grid - h.value), tie with
    | .lt, _ => some below
    | .gt, _ => some above
    | .eq, .up => some above
    | .eq, .toEven => some (if below % 2 = 0 then below else above)
  | true, false => some below
  | false, true => some above
  | false, false => none

/-- Tries the grids from a coarse one down to the scale itself, where the value is its own
candidate. -/
def search (h : Neighbourhood) (tie : Tie) : Nat → Decimal
  | 0 => ⟨h.value, h.exponent⟩
  | dropped + 1 =>
    match h.candidate? tie (Nat.pow 10 (dropped + 1)) with
    | some digits => ⟨digits, h.exponent + (dropped + 1 : Nat)⟩
    | none => h.search tie dropped

end Neighbourhood

namespace Format

def neighbourhood (f : Format) (mantissa : Nat) (exponent : Int) : Neighbourhood :=
  let quarter := exponent - 2
  let scale := twoTo quarter * Nat.pow 5 (-quarter).toNat
  { low := (4 * mantissa - if f.narrowBelow mantissa exponent then 1 else 2) * scale
    value := 4 * mantissa * scale
    high := (4 * mantissa + 2) * scale
    closed := mantissa % 2 = 0
    exponent := min quarter 0 }

/-- The nearest of the decimals with the fewest digits that round to a positive value. -/
def shortest (f : Format) (tie : Tie) (mantissa : Nat) (exponent : Int) : Decimal :=
  let h := f.neighbourhood mantissa exponent
  h.search tie ((toDigits h.value).length - 1)

end Format

/-! ## Writing a decimal down -/

structure Layout where
  /-- The least exponent of the leading digit that is written positionally. -/
  plainFrom : Int
  /-- The least larger exponent that is not. -/
  plainBelow : Int
  /-- An exponent that is not negative is written with a plus sign. -/
  plusSign : Bool
  tie : Tie

namespace Layout

def dropZeros (digits : List Char) : List Char :=
  (digits.reverse.dropWhile (· = '0')).reverse

/-- Digits with a point behind the digit of exponent zero; `lead` is the exponent of the first. -/
def plain (digits : List Char) (lead : Int) : List Char :=
  let before := (lead + 1).toNat
  if lead < 0 then '0' :: '.' :: List.replicate (-lead - 1).toNat '0' ++ digits
  else if digits.length ≤ before then
    digits ++ List.replicate (before - digits.length) '0' ++ ['.', '0']
  else digits.take before ++ '.' :: digits.drop before

def scientific (plusSign : Bool) (digits : List Char) (lead : Int) : List Char :=
  let point := if digits.length ≤ 1 then [] else ['.']
  let sign := if plusSign && 0 ≤ lead then ['+'] else []
  digits.take 1 ++ point ++ digits.drop 1 ++ 'e' :: sign ++ intDigits lead

def decimal (l : Layout) (d : Decimal) : List Char :=
  let all := toDigits d.digits
  let lead := d.exponent + all.length - 1
  let digits := dropZeros all
  if l.plainFrom ≤ lead && lead < l.plainBelow then plain digits lead
  else scientific l.plusSign digits lead

def text (l : Layout) (f : Format) : Value → List Char
  | .nan => "NaN".toList
  | .infinite negative => (if negative then "-inf" else "inf").toList
  | .finite negative mantissa exponent =>
    let unsigned :=
      if mantissa = 0 then "0.0".toList else l.decimal (f.shortest l.tie mantissa exponent)
    if negative then '-' :: unsigned else unsigned

end Layout

end DiceCup.Binary
