import DiceCup.Proofs.Pool.Invariant

/-!
# Refused pools — why no die of a pool is rolled

The number of dice comes first, then the largest total, then the sides of a die; a pool with none of
these faults is rolled by every cup.
-/

namespace DiceCup

namespace Pool

def refusal? (sides count : UInt32) (bonus : Int32) : Option RollError :=
  if count = 0 then some (.notPositive "number of dice" 0)
  else if 0x7FFFFFFF < count.toNat * sides.toNat + max bonus.toInt 0 then
    some (.totalOutOfRange sides count bonus)
  else if sides = 0 then some (.notPositive "number of sides" 0)
  else none

variable {sides count : UInt32} {options : RollOptions}

theorem totalFits_iff_not_lt {bonus : Int32} : TotalFits sides count bonus ↔
    ¬0x7FFFFFFF < count.toNat * sides.toNat + max bonus.toInt 0 := by
  rw [TotalFits, RollError.mostTotal]
  omega

theorem runOn_roll_of_shape {e : RollError} (cup : Cup)
    (h : checkShape sides count (options.bonus.getD 0) = .error e) :
    (roll sides count options).runOn cup = (.error e, cup) := by
  rw [roll_eq, RollM.runOn_bind, RollM.runOn_lift, h]

/-- Dice without sides pass the check of the range; the first of them stops the roll. -/
theorem runOn_roll_zero (cup : Cup) (hcount : count ≠ 0)
    (hshape : checkShape 0 count (options.bonus.getD 0) = .ok ()) :
    (roll 0 count options).runOn cup = (.error Cup.noSides, cup) := by
  have hne : count.toNat ≠ 0 := fun hzero => hcount (UInt32.toNat.inj hzero)
  obtain ⟨n, hn⟩ := Nat.exists_eq_succ_of_ne_zero hne
  have htimes : (RollM.times count.toNat (Cup.roll 0 options.technique)).runOn cup =
      (.error Cup.noSides, cup) := by
    rw [hn, RollM.times_succ, RollM.runOn_bind, Cup.runOn_roll_zero]
  rw [roll_eq, RollM.runOn_bind, RollM.runOn_lift, hshape]
  exact RollM.runOn_map_eq_error.mpr htimes

/-- A refused roll gives its cause and leaves the cup as it is. -/
theorem runOn_roll_of_refusal {e : RollError} (cup : Cup)
    (h : refusal? sides count (options.bonus.getD 0) = some e) :
    (roll sides count options).runOn cup = (.error e, cup) := by
  unfold refusal? at h
  split at h
  next hcount =>
    cases h
    exact runOn_roll_of_shape cup (if_pos hcount)
  next hcount =>
    split at h
    next hlarge =>
      cases h
      have hfits : ¬TotalFits sides count _ := fun h => totalFits_iff_not_lt.mp h hlarge
      exact runOn_roll_of_shape cup (by rw [checkShape, if_neg hcount, if_neg hfits])
    next hlarge =>
      have hfits := totalFits_iff_not_lt.mpr hlarge
      split at h
      next hsides =>
        cases h
        subst hsides
        exact runOn_roll_zero cup hcount (checkShape_eq_ok.mpr ⟨hcount, hfits⟩)
      next => cases h

/-- Nothing but its cause keeps a roll from succeeding. -/
theorem exists_roll_of_no_refusal (cup : Cup)
    (h : refusal? sides count (options.bonus.getD 0) = none) :
    ∃ pool cup', (roll sides count options).runOn cup = (.ok pool, cup') := by
  unfold refusal? at h
  split at h
  next => cases h
  next hcount =>
    split at h
    next => cases h
    next hlarge =>
      have hfits := totalFits_iff_not_lt.mpr hlarge
      split at h
      next => cases h
      next hsides =>
        exact (roll_succeeds_iff cup).mpr ⟨hsides, checkShape_eq_ok.mpr ⟨hcount, hfits⟩⟩

end Pool

end DiceCup
