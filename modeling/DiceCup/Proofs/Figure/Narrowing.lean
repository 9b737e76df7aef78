import DiceCup.Figure

/-!
# Narrowing — what an integer has to satisfy to fit

A figure narrows to a positive number just if it stands for that number and the number is not zero.
Otherwise it is refused as an invalid argument, whatever it was meant for.  What a figure narrows to
depends on nothing but the integer that it stands for, and how it is shown matters only where it
stands for none.
-/

namespace DiceCup

namespace Width

theorem inInt64_toNat (n : UInt32) : inInt64 n.toNat = true := by
  have hlt : n.toNat < 4294967296 := n.toNat_lt
  rw [inInt64_iff]
  omega

theorem inInt64_toInt (n : Int32) : inInt64 n.toInt = true := by
  have hlow : -2147483648 ≤ n.toInt := n.minValue_le_toInt
  have hhigh : n.toInt ≤ 2147483647 := n.toInt_le
  rw [inInt64_iff]
  omega

theorem uint32?_eq_some_iff {z : Int} {n : UInt32} : uint32? z = some n ↔ z = n.toNat := by
  constructor
  · intro h
    unfold uint32? at h
    split at h
    next hin =>
      cases h
      rw [inUInt32_iff] at hin
      have hsmall : z.toNat < 4294967296 := by omega
      have hsame : z.toNat.toUInt32.toNat = z.toNat := UInt32.toNat_ofNat_of_lt' hsmall
      omega
    next => cases h
  · rintro rfl
    exact uint32?_toNat n

end Width

namespace Figure

theorem positive_eq (what : String) (f : Figure) :
    f.positive what = match f.toInt64? with
      | none => .error (.notAnInteger what f.shown)
      | some z =>
        if z ≤ 0 then .error (.notPositive what z)
        else match Width.uint32? z with
          | some n => .ok n
          | none => .error (.outOfRange what z) := by
  unfold positive integer
  cases f.toInt64? <;> rfl

theorem int32_eq (what : String) (f : Figure) :
    f.int32 what = match f.toInt64? with
      | none => .error (.notAnInteger what f.shown)
      | some z => match Width.int32? z with
        | some n => .ok n
        | none => .error (.outOfRange what z) := by
  unfold int32 integer
  cases f.toInt64? <;> rfl

/-- What stands for an integer is narrowed to 32 bits, or out of their range. -/
theorem int32_of_some {what : String} {f : Figure} {z : Int} (h : f.toInt64? = some z) :
    f.int32 what = if -0x80000000 ≤ z ∧ z ≤ 0x7FFFFFFF then .ok (Int32.ofInt z)
      else .error (.outOfRange what z) := by
  by_cases hfits : -0x80000000 ≤ z ∧ z ≤ 0x7FFFFFFF
  · simp only [int32_eq, h, Width.int32?, if_pos (Width.inInt32_iff.mpr hfits), if_pos hfits]
  · simp only [int32_eq, h, Width.int32?, if_neg (mt Width.inInt32_iff.mp hfits), if_neg hfits]

theorem positive_of_some {what : String} {f : Figure} {z : Int} (h : f.toInt64? = some z) :
    f.positive what = if z ≤ 0 then .error (.notPositive what z)
      else if z ≤ 0xFFFFFFFF then .ok z.toNat.toUInt32 else .error (.outOfRange what z) := by
  by_cases hpos : z ≤ 0
  · simp only [positive_eq, h, if_pos hpos]
  · have hrange : Width.inUInt32 z = true ↔ z ≤ 0xFFFFFFFF := by
      rw [Width.inUInt32_iff]
      omega
    by_cases hfits : z ≤ 0xFFFFFFFF
    · simp only [positive_eq, h, if_neg hpos, Width.uint32?, if_pos (hrange.mpr hfits), if_pos hfits]
    · simp only [positive_eq, h, if_neg hpos, Width.uint32?, if_neg (mt hrange.mp hfits),
        if_neg hfits]

theorem int32_of_none {what : String} {f : Figure} (h : f.toInt64? = none) :
    f.int32 what = .error (.notAnInteger what f.shown) := by
  rw [int32_eq, h]

theorem positive_of_none {what : String} {f : Figure} (h : f.toInt64? = none) :
    f.positive what = .error (.notAnInteger what f.shown) := by
  rw [positive_eq, h]

/-- A figure is a positive number just if it stands for that number, and not for zero. -/
theorem positive_eq_ok_iff {what : String} {f : Figure} {n : UInt32} :
    f.positive what = .ok n ↔ f.toInt64? = some (n.toNat : Int) ∧ n ≠ 0 := by
  have hzero : n = 0 ↔ n.toNat = 0 := UInt32.toNat_inj.symm
  rw [positive_eq]
  constructor
  · intro h
    split at h
    next => cases h
    next z hz =>
      split at h
      next => cases h
      next hpos =>
        split at h
        next m hm =>
          cases h
          have hval := Width.uint32?_eq_some_iff.mp hm
          exact ⟨by rw [hz, hval], by rw [ne_eq, hzero]; omega⟩
        next => cases h
  · rintro ⟨hz, hne⟩
    -- What a machine number holds is never negative, so only zero is left to exclude.
    have hpos : ¬(n.toNat : Int) ≤ 0 := by rw [ne_eq, hzero] at hne; omega
    simp only [hz, if_neg hpos, Width.uint32?_toNat]

theorem positive_of_one_le {what : String} {f : Figure} {n : UInt32}
    (h : f.toInt64? = some (n.toNat : Int)) (hn : 1 ≤ n) : f.positive what = .ok n := by
  have hne : n ≠ 0 := by
    intro hzero
    rw [hzero] at hn
    exact absurd hn (by decide)
  exact positive_eq_ok_iff.mpr ⟨h, hne⟩

/-- Whatever is wrong with a figure, it is an invalid argument. -/
theorem kind_of_positive_eq_error {what : String} {f : Figure} {e : RollError}
    (h : f.positive what = .error e) : e.kind = .invalidArgument := by
  rw [positive_eq] at h
  split at h
  next => cases h; rfl
  next =>
    split at h
    next => cases h; rfl
    next => split at h <;> cases h; rfl

theorem positive_whole (what : String) (n : UInt32) :
    (whole n.toNat).positive what = if n = 0 then .error (.notPositive what 0) else .ok n := by
  have hstands : (whole n.toNat).toInt64? = some (n.toNat : Int) := by
    rw [toInt64?, Width.int64?, if_pos (Width.inInt64_toNat n)]
  by_cases h : n = 0
  · rw [if_pos h, positive_eq, hstands, h]
    rfl
  · rw [if_neg h]
    exact positive_eq_ok_iff.mpr ⟨hstands, h⟩

end Figure

end DiceCup
