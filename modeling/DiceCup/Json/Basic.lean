import DiceCup.Binary.Basic
import DiceCup.Text.Digits
import DiceCup.Width

/-!
# JSON values — a text's structure before its meaning

A value keeps what its text says: numerals digit by digit, objects as their members in order with
repeated keys, strings whose escapes leave a surrogate unpaired as strings without a text.  What a
numeral stands for is decided by `Numeral.number?`.
-/

namespace DiceCup

namespace Json

structure Numeral where
  negative : Bool
  whole : Nat
  fraction : List Char
  exponent : Option Int
deriving DecidableEq, Repr

end Json

inductive Json where
  | null
  | bool (b : Bool)
  | number (n : Json.Numeral)
  /-- A string; `none` stands for one that holds an unpaired surrogate and so has no text. -/
  | text (s : Option String)
  | array (items : List Json)
  | object (members : List (Option String × Json))
deriving Repr

namespace Json

inductive Number where
  | whole (n : Int)
  | real (x : Binary.Value)
deriving DecidableEq, Repr

namespace Numeral

def ofNat (n : Nat) : Numeral := ⟨false, n, [], none⟩

def ofInt (n : Int) : Numeral := ⟨decide (n < 0), n.natAbs, [], none⟩

/-- The integer of a numeral without a point and an exponent.  Minus zero is no integer. -/
def integer? (n : Numeral) : Option Int :=
  if n.fraction = [] && n.exponent = none && !(n.negative && n.whole = 0) then
    some (if n.negative then -(n.whole : Int) else n.whole)
  else none

theorem integer?_ofInt (n : Int) : (ofInt n).integer? = some n := by
  have h0 : n < 0 → n.natAbs ≠ 0 := by omega
  unfold integer? ofInt
  by_cases h : n < 0
  · rw [if_pos (by simp [h, h0 h]), if_pos (by simpa using h)]
    congr 1
    exact (Int.eq_neg_natAbs_of_nonpos (Int.le_of_lt h)).symm
  · rw [if_pos (by simp [h]), if_neg (by simpa using h)]
    congr 1
    exact Int.natAbs_of_nonneg (Int.not_lt.mp h)

/-! ## Numerals as doubles

The digits are gathered into a significand as long as it fits in 64 bits; the exponent makes up for
the point and for integer digits left out.  Significand and power of ten are rounded to doubles
first, then multiplied or divided with one more rounding, so that the result can miss the nearest
double by a little. -/

/-- Extends a significand by as many digits as fit, and returns it with the digits left over. -/
def gather (significand : Nat) : List Char → Nat × List Char
  | [] => (significand, [])
  | d :: ds =>
    let longer := Nat.ofDigitChars 10 [d] significand
    if Width.inUInt64 longer then gather longer ds else (significand, d :: ds)

def scale (significand : Nat) (exponent : Int) : Binary.Magnitude :=
  if significand = 0 then .ofNat 0
  else if 308 < exponent then .tooLarge
  else if 0 ≤ exponent then .product (.ofNat significand) (.tenTo exponent.toNat)
  else if -308 ≤ exponent then .quotient (.ofNat significand) (.tenTo (-exponent).toNat)
  else if -616 ≤ exponent then
    .quotient (.quotient (.ofNat significand) (.tenTo 308)) (.tenTo (-exponent - 308).toNat)
  else .ofNat 0

def magnitude (n : Numeral) : Binary.Magnitude :=
  let (significand, skipped) := gather 0 (Text.toDigits n.whole)
  let (significand, ignored) := gather significand n.fraction
  let shift : Int := skipped.length - (n.fraction.length - ignored.length : Nat)
  scale significand (shift + n.exponent.getD 0)

/-- What a numeral stands for: an integer if it is written as one and fits in 64 bits, signed or
not, otherwise a double, and nothing at all if it exceeds every double. -/
def number? (n : Numeral) : Option Number :=
  match n.integer? with
  | some i =>
    if Width.inInt64 i || Width.inUInt64 i then some (.whole i) else real?
  | none => real?
where
  real? : Option Number :=
    match n.magnitude with
    | .tooLarge => none
    | m => some (.real (.ofMagnitude n.negative m))

/-- A numeral without a point and an exponent stands for its integer if that fits in 64 bits. -/
theorem number?_of_integer? {n : Numeral} {z : Int} (hinteger : n.integer? = some z)
    (hrange : Width.inInt64 z = true ∨ Width.inUInt64 z = true) : n.number? = some (.whole z) := by
  rw [number?, hinteger]
  exact if_pos (Bool.or_eq_true _ _ ▸ hrange)

end Numeral

/-! ## Building values -/

def ofNat (n : Nat) : Json := .number (.ofNat n)

def ofInt (n : Int) : Json := .number (.ofInt n)

def ofString (s : String) : Json := .text (some s)

def ofOption {α : Type} (encode : α → Json) : Option α → Json
  | none => .null
  | some a => encode a

def ofFields (fields : List (String × Json)) : Json :=
  .object (fields.map fun (key, value) => (some key, value))

end Json

end DiceCup
