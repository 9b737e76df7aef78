import DiceCup.Proofs.Pool.Roll

/-!
# Exact totals — additions of 32 bits that never wrap around

The running sum of values is exact as long as the sum of all of them stays below `2 ^ 31`.  Values
from one to a number of sides bound it from both sides, and so does each piece of the values.
-/

namespace DiceCup

namespace Width

theorem one_le_of_ne_zero {x : UInt32} (h : x ≠ 0) : 1 ≤ x := by
  rw [UInt32.le_iff_toNat_le]
  exact Nat.one_le_iff_ne_zero.mpr fun hzero => h (UInt32.toNat.inj hzero)

theorem toInt_toInt32 {x : UInt32} (h : x.toNat ≤ 0x7FFFFFFF) : x.toInt32.toInt = x.toNat := by
  have hx : x.toInt32 = Int32.ofNat x.toNat := by
    rw [← UInt32.toInt32_ofNat', UInt32.ofNat_toNat]
  rw [hx]
  exact Int32.toInt_ofNat_of_lt (by omega)

theorem toInt_add_of_fits {x y : Int32} (hlow : -0x80000000 ≤ x.toInt + y.toInt)
    (hhigh : x.toInt + y.toInt ≤ 0x7FFFFFFF) : (x + y).toInt = x.toInt + y.toInt := by
  rw [Int32.toInt_add]
  exact Int.bmod_eq_of_le (by omega) (by omega)

end Width

namespace Pool

def exactSum : List UInt32 → Nat
  | [] => 0
  | value :: values => value.toNat + exactSum values

theorem exactSum_cons (value : UInt32) (values : List UInt32) :
    exactSum (value :: values) = value.toNat + exactSum values := rfl

theorem exactSum_append (front rest : List UInt32) :
    exactSum (front ++ rest) = exactSum front + exactSum rest := by
  induction front with
  | nil => exact (Nat.zero_add _).symm
  | cons value front ih => rw [List.cons_append, exactSum_cons, exactSum_cons, ih, Nat.add_assoc]

/-- Values behind a point of the list only add to the sum before it. -/
theorem exactSum_le_of_prefix {front values : List UInt32} (h : front <+: values) :
    exactSum front ≤ exactSum values := by
  rcases h with ⟨rest, rfl⟩
  rw [exactSum_append]
  omega

theorem length_le_exactSum {values : List UInt32} (h : ∀ value ∈ values, 1 ≤ value) :
    values.length ≤ exactSum values := by
  induction values with
  | nil => exact Nat.le_refl 0
  | cons value values ih =>
    have hvalue := UInt32.le_iff_toNat_le.mp (h value List.mem_cons_self)
    have hrest := ih fun other hother => h other (List.mem_cons_of_mem value hother)
    change 1 ≤ value.toNat at hvalue
    rw [exactSum_cons, List.length_cons]
    omega

theorem exactSum_le {values : List UInt32} {sides : UInt32} (h : ∀ value ∈ values, value ≤ sides) :
    exactSum values ≤ values.length * sides.toNat := by
  induction values with
  | nil => exact Nat.zero_le _
  | cons value values ih =>
    have hvalue := UInt32.le_iff_toNat_le.mp (h value List.mem_cons_self)
    have hrest := ih fun other hother => h other (List.mem_cons_of_mem value hother)
    rw [exactSum_cons, List.length_cons, Nat.succ_mul]
    omega

/-- The accumulator starts anywhere, as long as there is room for the values above it. -/
theorem toInt_foldl {values : List UInt32} {start : Int32} (hstart : 0 ≤ start.toInt)
    (h : start.toInt + exactSum values ≤ RollError.mostTotal) :
    (values.foldl (fun sum value => sum + value.toInt32) start).toInt =
      start.toInt + exactSum values := by
  induction values generalizing start with
  | nil => exact (Int.add_zero _).symm
  | cons value values ih =>
    rw [exactSum_cons, RollError.mostTotal] at h
    have hvalue : value.toInt32.toInt = value.toNat := Width.toInt_toInt32 (by omega)
    have hadd : (start + value.toInt32).toInt = start.toInt + value.toNat := by
      rw [Width.toInt_add_of_fits (by omega) (by omega), hvalue]
    rw [List.foldl_cons, ih (by omega) (by rw [hadd, RollError.mostTotal]; omega), hadd,
      exactSum_cons]
    omega

/-- Values that together fit in 32 bits are added without wrapping. -/
theorem toInt_runningSum {values : List UInt32} (h : exactSum values ≤ RollError.mostTotal) :
    (runningSum values).toInt = exactSum values := by
  have hzero : (0 : Int32).toInt = 0 := rfl
  rw [runningSum, toInt_foldl (by omega) (by omega), hzero, Int.zero_add]

-- Below, a bonus can only take what `Int32` has room for, since the sum is not negative.
theorem toInt_runningSum_add {values : List UInt32} {bonus : Int32}
    (h : exactSum values + max bonus.toInt 0 ≤ RollError.mostTotal) :
    (runningSum values + bonus).toInt = exactSum values + bonus.toInt := by
  have hsum : (runningSum values).toInt = exactSum values := toInt_runningSum (by omega)
  have hlow : -2147483648 ≤ bonus.toInt := bonus.minValue_le_toInt
  rw [RollError.mostTotal] at h
  rw [Width.toInt_add_of_fits (by omega) (by omega), hsum]

/-- Values on the sides of no more dice than were checked leave room for the bonus. -/
theorem exactSum_fits {values : List UInt32} {sides count : UInt32} {bonus : Int32}
    (hvalues : ∀ value ∈ values, value ≤ sides) (hlength : values.length ≤ count.toNat)
    (hfits : TotalFits sides count bonus) :
    exactSum values + max bonus.toInt 0 ≤ RollError.mostTotal := by
  have hsum := exactSum_le hvalues
  have hcount := Nat.mul_le_mul_right sides.toNat hlength
  rw [TotalFits] at hfits
  omega

end Pool

end DiceCup
