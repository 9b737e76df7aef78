/-!
# Widths — integers of a fixed number of bits

The ranges of 32 and 64 bits, signed and unsigned, and the conversions from integers, which give
nothing for an integer outside their range.
-/

namespace DiceCup.Width

def inInt32 (n : Int) : Bool := -0x80000000 ≤ n && n < 0x80000000

def inUInt32 (n : Int) : Bool := 0 ≤ n && n < 0x100000000

def inInt64 (n : Int) : Bool := -0x8000000000000000 ≤ n && n < 0x8000000000000000

def inUInt64 (n : Int) : Bool := 0 ≤ n && n < 0x10000000000000000

def int32? (n : Int) : Option Int32 := if inInt32 n then some (Int32.ofInt n) else none

def uint32? (n : Int) : Option UInt32 := if inUInt32 n then some n.toNat.toUInt32 else none

def int64? (n : Int) : Option Int := if inInt64 n then some n else none

/-! ## Ranges -/

theorem inInt32_iff {z : Int} : inInt32 z = true ↔ -0x80000000 ≤ z ∧ z ≤ 0x7FFFFFFF := by
  rw [inInt32, Bool.and_eq_true, decide_eq_true_eq, decide_eq_true_eq]
  omega

theorem inUInt32_iff {z : Int} : inUInt32 z = true ↔ 0 ≤ z ∧ z ≤ 0xFFFFFFFF := by
  rw [inUInt32, Bool.and_eq_true, decide_eq_true_eq, decide_eq_true_eq]
  omega

theorem inInt64_iff {z : Int} :
    inInt64 z = true ↔ -0x8000000000000000 ≤ z ∧ z ≤ 0x7FFFFFFFFFFFFFFF := by
  rw [inInt64, Bool.and_eq_true, decide_eq_true_eq, decide_eq_true_eq]
  omega

theorem inUInt64_iff {z : Int} : inUInt64 z = true ↔ 0 ≤ z ∧ z ≤ 0xFFFFFFFFFFFFFFFF := by
  rw [inUInt64, Bool.and_eq_true, decide_eq_true_eq, decide_eq_true_eq]
  omega

/-! ## Numbers that fit -/

theorem int32?_toInt (x : Int32) : int32? x.toInt = some x := by
  have low : -2147483648 ≤ x.toInt := x.minValue_le_toInt
  have high : x.toInt ≤ 2147483647 := x.toInt_le
  rw [int32?, if_pos (inInt32_iff.mpr ⟨low, high⟩), Int32.ofInt_toInt]

theorem uint32?_toNat (x : UInt32) : uint32? x.toNat = some x := by
  have high : x.toNat < 4294967296 := x.toNat_lt
  have h : inUInt32 x.toNat = true := by
    rw [inUInt32_iff]
    omega
  rw [uint32?, if_pos h, Int.toNat_natCast]
  exact congrArg some UInt32.ofNat_toNat

theorem int64?_eq_some_iff {y z : Int} : int64? y = some z ↔ y = z ∧ inInt64 z = true := by
  unfold int64?
  split
  next h =>
    constructor
    · rintro ⟨⟩
      exact ⟨rfl, h⟩
    · rintro ⟨rfl, _⟩
      rfl
  next h =>
    constructor
    · rintro ⟨⟩
    · rintro ⟨rfl, hfits⟩
      exact absurd hfits h

end DiceCup.Width
