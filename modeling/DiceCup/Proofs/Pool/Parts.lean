import DiceCup.Proofs.Cup.Turns
import DiceCup.Proofs.Pool.Invariant

/-!
# Parts — a pool rolled in two parts is the pool rolled at once

A roll takes one turn of the cup for each die and no other, so the turns of two rolls in a row are
those of the roll of all the dice.  Whether the cup reseeds in between, in either part or at its
end, is a matter of the turns and not of the rolls.
-/

namespace DiceCup.Pool

variable {sides a b : UInt32} {options : RollOptions} {cup mid cup' : Cup}

/-! ## 1. One turn for each die -/

theorem values_ofValues (sides : UInt32) (options : RollOptions) (values : List UInt32) :
    (ofValues sides options values).values = values := by
  rw [Pool.values, ofValues, List.map_map]
  exact List.map_id' values

/-- The values of a pool are rolled in turn, and make up the pool. -/
theorem inTurn_of_roll {pool : Pool} (h : (roll sides a options).runOn cup = (.ok pool, cup')) :
    (Cup.roll sides options.technique).InTurn cup pool.values cup' ∧
      pool.values.length = a.toNat ∧ pool = ofValues sides options pool.values := by
  obtain ⟨_, _, values, htimes, rfl⟩ := roll_eq_ok h
  obtain ⟨hlength, hturns⟩ := RollM.times_eq_ok_iff.mp htimes
  rw [values_ofValues]
  exact ⟨hturns, hlength, rfl⟩

/-- A total without dice is that of the pool which could have been rolled. -/
theorem rollTotal_eq_ok_iff {sum : Int32} :
    (rollTotal sides a options).runOn cup = (.ok sum, cup') ↔
      ∃ pool, (roll sides a options).runOn cup = (.ok pool, cup') ∧ pool.total = sum := by
  rw [rollTotal_eq]
  exact RollM.runOn_map_eq_ok

/-! ## 2. Two parts -/

theorem Sound.toNat_le {pool : Pool} (h : pool.Sound sides a options) :
    a.toNat ≤ RollError.mostTotal := by
  have hfits := h.fits
  -- A die shows at least one, so there are no more dice than the largest total.
  have hsides := UInt32.le_iff_toNat_le.mp h.one_le_sides
  have hcount := Nat.le_mul_of_pos_right a.toNat hsides
  rw [TotalFits] at hfits
  omega

/-- Two numbers of dice that could be rolled are too small for their sum to wrap around. -/
theorem toNat_add_of_sound {first second : Pool} {others : RollOptions}
    (hfirst : first.Sound sides a options) (hsecond : second.Sound sides b others) :
    (a + b).toNat = a.toNat + b.toNat := by
  have ha := hfirst.toNat_le
  have hb := hsecond.toNat_le
  rw [RollError.mostTotal] at ha hb
  rw [UInt32.toNat_add]
  omega

/-- The values of two rolls may be added one after the other. -/
theorem runningSum_append (front rest : List UInt32) :
    runningSum (front ++ rest) = runningSum front + runningSum rest := by
  -- A sum that starts from a value adds it in front, even when additions wrap around.
  have hfold (start : Int32) : rest.foldl (fun sum value => sum + value.toInt32) start =
      start + runningSum rest := by
    rw [runningSum]
    induction rest generalizing start with
    | nil => exact (Int32.add_zero start).symm
    | cons value rest ih =>
      rw [List.foldl_cons, List.foldl_cons, ih, ih (0 + value.toInt32), Int32.zero_add,
        Int32.add_assoc]
  rw [runningSum, List.foldl_append, hfold]
  rfl

/-- The values of two rolls in a row are those of the roll of all the dice, with the same cup
behind. -/
theorem values_of_parts {x y z : Option Int32} {first second whole : Pool} {last : Cup}
    (hfirst : (roll sides a { options with bonus := x }).runOn cup = (.ok first, mid))
    (hsecond : (roll sides b { options with bonus := y }).runOn mid = (.ok second, cup'))
    (hwhole : (roll sides (a + b) { options with bonus := z }).runOn cup = (.ok whole, last)) :
    (a + b).toNat = a.toNat + b.toNat ∧ whole.values = first.values ++ second.values ∧
      last = cup' := by
  have hcount := toNat_add_of_sound (sound_of_roll hfirst) (sound_of_roll hsecond)
  obtain ⟨hfront, hfrontLength, _⟩ := inTurn_of_roll hfirst
  obtain ⟨hrest, hrestLength, _⟩ := inTurn_of_roll hsecond
  obtain ⟨hall, hlength, _⟩ := inTurn_of_roll hwhole
  -- The cup takes as many turns either way, and equally many turns of one cup are the same.
  have hsame : whole.values.length = (first.values ++ second.values).length := by
    rw [hlength, hcount, List.length_append, hfrontLength, hrestLength]
  exact ⟨hcount, (hfront.append hrest).unique hall hsame⟩

theorem dice_of_parts {x y z : Option Int32} {first second whole : Pool} {last : Cup}
    (hfirst : (roll sides a { options with bonus := x }).runOn cup = (.ok first, mid))
    (hsecond : (roll sides b { options with bonus := y }).runOn mid = (.ok second, cup'))
    (hwhole : (roll sides (a + b) { options with bonus := z }).runOn cup = (.ok whole, last)) :
    whole.dice = first.dice ++ second.dice := by
  have hvalues := (values_of_parts hfirst hsecond hwhole).2.1
  rw [(inTurn_of_roll hfirst).2.2, (inTurn_of_roll hsecond).2.2, (inTurn_of_roll hwhole).2.2,
    hvalues]
  exact List.map_append

theorem total_of_roll {pool : Pool} (h : (roll sides a options).runOn cup = (.ok pool, cup')) :
    pool.total = runningSum pool.values + options.bonus.getD 0 := by
  rw [(inTurn_of_roll h).2.2, total_ofValues, values_ofValues]

theorem toInt_total_of_roll {pool : Pool}
    (h : (roll sides a options).runOn cup = (.ok pool, cup')) :
    pool.total.toInt = exactSum pool.values + (options.bonus.getD 0).toInt := by
  have hsound := sound_of_roll h
  -- Each value is at most the sides, and so the exact sum stays within 32 bits.
  have hvalues : ∀ value ∈ pool.values, value ≤ sides := by
    intro value hvalue
    obtain ⟨die, hdie, rfl⟩ := List.mem_map.mp hvalue
    exact (hsound.dice_sound die hdie).value_le
  have hlength := (inTurn_of_roll h).2.1
  rw [total_of_roll h]
  exact toInt_runningSum_add (exactSum_fits hvalues (by omega) (roll_eq_ok h).2.1)

/-- The totals of two rolls in a row add up to that of the roll of all the dice, if their bonuses
add up to its bonus: with additions of 32 bits, and as integers. -/
theorem total_of_parts {x y z : Option Int32} {first second whole : Pool} {last : Cup}
    (hfirst : (roll sides a { options with bonus := x }).runOn cup = (.ok first, mid))
    (hsecond : (roll sides b { options with bonus := y }).runOn mid = (.ok second, cup'))
    (hwhole : (roll sides (a + b) { options with bonus := z }).runOn cup = (.ok whole, last)) :
    (z.getD 0 = x.getD 0 + y.getD 0 → whole.total = first.total + second.total) ∧
      ((z.getD 0).toInt = (x.getD 0).toInt + (y.getD 0).toInt →
        whole.total.toInt = first.total.toInt + second.total.toInt) := by
  have hvalues := (values_of_parts hfirst hsecond hwhole).2.1
  constructor
  · intro hbonus
    -- Additions of 32 bits may be taken in any order, whether or not they wrap around.
    rw [total_of_roll hfirst, total_of_roll hsecond, total_of_roll hwhole, hvalues,
      runningSum_append, hbonus]
    ac_rfl
  · intro hbonus
    -- As integers each of the three totals is exact.
    have hfront := toInt_total_of_roll hfirst
    have hrest := toInt_total_of_roll hsecond
    have hall := toInt_total_of_roll hwhole
    rw [hvalues, exactSum_append] at hall
    dsimp only at hfront hrest hall
    omega

/-- **Rolling in parts is rolling at once.**  When two pools are rolled one after the other and a
third one of as many dice could have been rolled in their place, then its dice are those of the two
in their order, and it leaves the same cup.  A total without dice is the sum of the totals of the
two parts if its bonus is the sum of theirs.  For every roll that succeeds takes a turn of the cup
for each die, by the technique of the options, and makes the dice or the total of what they give. -/
theorem rolled_in_parts (sides a b : UInt32) (options : RollOptions) (x y z : Option Int32)
    (cup : Cup) :
    (∀ first mid second cup' whole last,
      (roll sides a { options with bonus := x }).runOn cup = (.ok first, mid) →
      (roll sides b { options with bonus := y }).runOn mid = (.ok second, cup') →
      (roll sides (a + b) { options with bonus := z }).runOn cup = (.ok whole, last) →
      (a + b).toNat = a.toNat + b.toNat ∧ whole.dice = first.dice ++ second.dice ∧ last = cup') ∧
    (∀ first mid second cup' whole last,
      (rollTotal sides a { options with bonus := x }).runOn cup = (.ok first, mid) →
      (rollTotal sides b { options with bonus := y }).runOn mid = (.ok second, cup') →
      (rollTotal sides (a + b) { options with bonus := z }).runOn cup = (.ok whole, last) →
      (z.getD 0 = x.getD 0 + y.getD 0 → whole = first + second) ∧
      ((z.getD 0).toInt = (x.getD 0).toInt + (y.getD 0).toInt →
        whole.toInt = first.toInt + second.toInt) ∧ last = cup') ∧
    (∀ pool cup', (roll sides a options).runOn cup = (.ok pool, cup') →
      (Cup.roll sides options.technique).InTurn cup pool.values cup' ∧
      pool.values.length = a.toNat ∧ pool = ofValues sides options pool.values) ∧
    ∀ sum cup', (rollTotal sides a options).runOn cup = (.ok sum, cup') →
      ∃ values, (Cup.roll sides options.technique).InTurn cup values cup' ∧
        values.length = a.toNat ∧ sum = runningSum values + options.bonus.getD 0 := by
  refine ⟨?dice, ?totals, fun _ _ => inTurn_of_roll, ?turns⟩
  case dice =>
    intro first mid second cup' whole last hfirst hsecond hwhole
    obtain ⟨hcount, _, hlast⟩ := values_of_parts hfirst hsecond hwhole
    exact ⟨hcount, dice_of_parts hfirst hsecond hwhole, hlast⟩
  case totals =>
    intro first mid second cup' whole last hfirst hsecond hwhole
    obtain ⟨front, hfront, rfl⟩ := rollTotal_eq_ok_iff.mp hfirst
    obtain ⟨rest, hrest, rfl⟩ := rollTotal_eq_ok_iff.mp hsecond
    obtain ⟨all, hall, rfl⟩ := rollTotal_eq_ok_iff.mp hwhole
    obtain ⟨hsum, hexact⟩ := total_of_parts hfront hrest hall
    exact ⟨hsum, hexact, (values_of_parts hfront hrest hall).2.2⟩
  case turns =>
    intro sum cup' h
    obtain ⟨pool, hroll, rfl⟩ := rollTotal_eq_ok_iff.mp h
    obtain ⟨hturns, hlength, _⟩ := inTurn_of_roll hroll
    exact ⟨pool.values, hturns, hlength, total_of_roll hroll⟩

def pairCup : Cup :=
  { Cup.ofSeed 7 (.ofWords fun n => n.toUInt32) with
    technique := .seededGlobal, interval := Interval.ofRolls? 2 }

theorem rolled_in_parts_pairs :
    ∃ first mid second cup' whole last,
      (roll 20 3 { bonus := some 4 }).runOn pairCup = (.ok first, mid) ∧
      (roll 20 2 { bonus := some (-6) }).runOn mid = (.ok second, cup') ∧
      (roll 20 5 { bonus := some (-2) }).runOn pairCup = (.ok whole, last) ∧
      whole.dice = first.dice ++ second.dice ∧ last = cup' ∧
      (Cup.roll 20 none).InTurn pairCup first.values mid ∧
      (rollTotal 20 3 { bonus := some 4 }).runOn pairCup = (.ok first.total, mid) ∧
      (rollTotal 20 2 { bonus := some (-6) }).runOn mid = (.ok second.total, cup') ∧
      (rollTotal 20 5 { bonus := some (-2) }).runOn pairCup = (.ok whole.total, last) ∧
      whole.total.toInt = first.total.toInt + second.total.toInt := by
  have hrolls (count : UInt32) (bonus : Int32) (cup : Cup) (hcount : count ≠ 0)
      (hfits : TotalFits 20 count bonus) :
      ∃ pool cup', (roll 20 count { bonus := some bonus }).runOn cup = (.ok pool, cup') :=
    (roll_succeeds_iff cup).mpr ⟨by decide, checkShape_eq_ok.mpr ⟨hcount, hfits⟩⟩
  have htotals {count : UInt32} {options : RollOptions} {cup cup' : Cup} {pool : Pool}
      (h : (roll 20 count options).runOn cup = (.ok pool, cup')) :
      (rollTotal 20 count options).runOn cup = (.ok pool.total, cup') :=
    rollTotal_eq_ok_iff.mpr ⟨pool, h, rfl⟩
  obtain ⟨first, mid, hfirst⟩ := hrolls 3 4 pairCup (by decide) (by decide)
  obtain ⟨second, cup', hsecond⟩ := hrolls 2 (-6) mid (by decide) (by decide)
  obtain ⟨whole, last, hwhole⟩ := hrolls 5 (-2) pairCup (by decide) (by decide)
  have hparts := rolled_in_parts 20 3 2 {} (some 4) (some (-6)) (some (-2)) pairCup
  obtain ⟨_, hdice, hlast⟩ := hparts.1 _ _ _ _ _ _ hfirst hsecond hwhole
  have hsum := hparts.2.1 _ _ _ _ _ _ (htotals hfirst) (htotals hsecond) (htotals hwhole)
  have hwarm := rolled_in_parts 20 3 2 { bonus := some 4 } none none none pairCup
  have hturns := hwarm.2.2.1 _ _ hfirst
  exact ⟨first, mid, second, cup', whole, last, hfirst, hsecond, hwhole, hdice, hlast, hturns.1,
    htotals hfirst, htotals hsecond, htotals hwhole, hsum.2.1 (by decide)⟩

end DiceCup.Pool
