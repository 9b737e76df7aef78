import DiceCup.Proofs.Cup.Roll
import DiceCup.Proofs.Pool.Keep
import DiceCup.Proofs.Pool.Totals

/-!
# Sound pools — what no change to a pool can break

The range of totals is checked when a pool is rolled and when its bonus is set.  In between, its dice
are chosen from and rolled again, by any cup, and some of that fails.  All of it leaves the pool with
as many dice, of the same sides, with values on these sides; and that alone makes totals exact.
-/

namespace DiceCup

/-- The shapes that are accepted have dice, and no total that 32 bits could not hold. -/
theorem checkShape_eq_ok {sides count : UInt32} {bonus : Int32} :
    checkShape sides count bonus = .ok () ↔ count ≠ 0 ∧ TotalFits sides count bonus := by
  unfold checkShape
  by_cases hcount : count = 0
  · rw [if_pos hcount]
    exact ⟨fun h => (by cases h), fun h => absurd hcount h.1⟩
  · rw [if_neg hcount]
    by_cases hfits : TotalFits sides count bonus
    · rw [if_pos hfits]
      exact ⟨fun _ => ⟨hcount, hfits⟩, fun _ => rfl⟩
    · rw [if_neg hfits]
      exact ⟨fun h => (by cases h), fun h => absurd h.2 hfits⟩

/-- A die as its roll made it: its value is on one of its sides, and only whether it counts is open. -/
structure Die.Sound (sides : UInt32) (options : RollOptions) (die : Die) : Prop where
  sides_eq : die.sides = sides
  technique_eq : die.technique = options.technique
  appearance_eq : die.appearance = options.appearance
  one_le_value : 1 ≤ die.value
  value_le : die.value ≤ sides

theorem Die.Sound.mark {sides : UInt32} {options : RollOptions} {die : Die}
    (h : die.Sound sides options) (included : Bool) :
    ({ die with included } : Die).Sound sides options :=
  ⟨h.sides_eq, h.technique_eq, h.appearance_eq, h.one_le_value, h.value_le⟩

theorem Die.Sound.reroll {sides : UInt32} {options : RollOptions} {die die' : Die}
    (h : die.Sound sides options) {cup cup' : Cup}
    (hreroll : die.reroll.runOn cup = (.ok die', cup')) : die'.Sound sides options := by
  rcases RollM.runOn_bind_eq_ok hreroll with ⟨value, mid, hvalue, hdie⟩
  cases hdie
  have hmem := (Cup.roll_eq_ok hvalue).2
  rw [h.sides_eq] at hmem
  exact ⟨h.sides_eq, h.technique_eq, h.appearance_eq, hmem.1, hmem.2⟩

/-- A pool of a number of dice as its roll made it, up to which dice count, their values and a bonus
that leaves totals in range. -/
structure Pool.Sound (sides count : UInt32) (options : RollOptions) (pool : Pool) : Prop where
  sides_eq : pool.sides = sides
  one_le_sides : 1 ≤ sides
  one_le_count : 1 ≤ count
  length_dice : pool.dice.length = count.toNat
  dice_sound : ∀ die ∈ pool.dice, die.Sound sides options
  fits : TotalFits sides count pool.bonus

namespace Pool

variable {sides count : UInt32} {options : RollOptions} {pool : Pool}

/-! ## 1. A roll -/

/-- A roll that succeeds is of a shape that was accepted, and its dice are the values rolled. -/
theorem roll_eq_ok {cup cup' : Cup} (h : (roll sides count options).runOn cup = (.ok pool, cup')) :
    count ≠ 0 ∧ TotalFits sides count (options.bonus.getD 0) ∧
      ∃ values, (RollM.times count.toNat (Cup.roll sides options.technique)).runOn cup =
        (.ok values, cup') ∧ ofValues sides options values = pool := by
  rw [roll_eq] at h
  rcases RollM.runOn_bind_eq_ok h with ⟨_, mid, hshape, hdice⟩
  rw [RollM.runOn_lift, Prod.mk.injEq] at hshape
  rcases checkShape_eq_ok.mp hshape.1 with ⟨hcount, hfits⟩
  rcases RollM.runOn_map_eq_ok.mp hdice with ⟨values, hvalues, hpool⟩
  rw [← hshape.2] at hvalues
  exact ⟨hcount, hfits, values, hvalues, hpool⟩

theorem sound_of_roll {cup cup' : Cup}
    (h : (roll sides count options).runOn cup = (.ok pool, cup')) : pool.Sound sides count options := by
  rcases roll_eq_ok h with ⟨hcount, hfits, values, hvalues, rfl⟩
  have hlength := RollM.length_of_times hvalues
  have hrolled := RollM.forall_mem_of_times (fun _ _ _ => Cup.roll_eq_ok) hvalues
  -- There is a first value, and it was not rolled without sides.
  have hpositive : values ≠ [] := by
    rintro rfl
    exact hcount (UInt32.toNat.inj hlength.symm)
  have hsides : sides ≠ 0 := (hrolled _ (List.head_mem hpositive)).1
  refine ⟨rfl, Width.one_le_of_ne_zero hsides, Width.one_le_of_ne_zero hcount, ?_, ?_, hfits⟩
  · rw [ofValues, List.length_map, hlength]
  · intro die hdie
    rcases List.mem_map.mp hdie with ⟨value, hvalue, rfl⟩
    have hmem := (hrolled value hvalue).2
    exact ⟨rfl, rfl, rfl, hmem.1, hmem.2⟩

/-- Whatever the cup, a roll succeeds if its shape is accepted and the dice have sides, and only
then. -/
theorem roll_succeeds_iff (cup : Cup) :
    (∃ pool cup', (roll sides count options).runOn cup = (.ok pool, cup')) ↔
      sides ≠ 0 ∧ checkShape sides count (options.bonus.getD 0) = .ok () := by
  constructor
  · rintro ⟨pool, cup', h⟩
    rcases roll_eq_ok h with ⟨hcount, hfits, _⟩
    refine ⟨?_, checkShape_eq_ok.mpr ⟨hcount, hfits⟩⟩
    rintro rfl
    exact absurd (sound_of_roll h).one_le_sides (by decide)
  · rintro ⟨hsides, hshape⟩
    have hroll : ∀ cup, ∃ value cup', (Cup.roll sides options.technique).runOn cup =
        (.ok value, cup') := fun cup => ⟨_, _, Cup.runOn_roll hsides options.technique cup⟩
    rcases RollM.exists_times hroll count.toNat cup with ⟨values, cup', hvalues⟩
    refine ⟨ofValues sides options values, cup', ?_⟩
    rw [roll_eq, RollM.runOn_bind, RollM.runOn_lift, hshape]
    exact RollM.runOn_map_eq_ok.mpr ⟨values, hvalues, rfl⟩

/-! ## 2. A change -/

theorem sound_allIncluded : pool.allIncluded.Sound sides count options ↔
    pool.Sound sides count options := by
  constructor
  · intro h
    refine ⟨h.sides_eq, h.one_le_sides, h.one_le_count, ?_, ?_, h.fits⟩
    · rw [← h.length_dice, allIncluded, List.length_map]
    · intro die hdie
      exact (h.dice_sound _ (List.mem_map_of_mem hdie)).mark die.included
  · intro h
    refine ⟨h.sides_eq, h.one_le_sides, h.one_le_count, ?_, ?_, h.fits⟩
    · rw [← h.length_dice, allIncluded, List.length_map]
    · intro die hdie
      rcases List.mem_map.mp hdie with ⟨other, hother, rfl⟩
      exact (h.dice_sound other hother).mark true

/-- A selection only decides which dice count, so a sound pool stays sound. -/
theorem Sound.keep (h : pool.Sound sides count options) {mode : KeepMode} {number : Option UInt32}
    {result : Pool} (hkeep : pool.keep mode number = .ok result) :
    result.Sound sides count options := by
  rw [← sound_allIncluded, allIncluded_of_keep hkeep, sound_allIncluded]
  exact h

theorem Sound.count_eq (h : pool.Sound sides count options) : pool.count = count := by
  rw [Pool.count, h.length_dice]
  exact UInt32.ofNat_toNat

/-- A bonus for which the dice leave room keeps a pool sound. -/
theorem Sound.setBonus (h : pool.Sound sides count options) {figure : Figure} {result : Pool}
    (hset : pool.setBonus figure = .ok result) : result.Sound sides count options := by
  unfold Pool.setBonus at hset
  cases hbonus : figure.int32 "bonus" with
  | error e =>
    rw [hbonus] at hset
    cases hset
  | ok bonus =>
    rw [hbonus] at hset
    change (checkShape pool.sides pool.count bonus >>= fun _ => pure { pool with bonus }) = _ at hset
    cases hshape : checkShape pool.sides pool.count bonus with
    | error e =>
      rw [hshape] at hset
      cases hset
    | ok =>
      rw [hshape] at hset
      cases hset
      -- The range was checked for the dice that the pool has, which are those it was rolled with.
      rw [h.sides_eq, h.count_eq] at hshape
      exact { h with fits := (checkShape_eq_ok.mp hshape).2 }

-- A die without sides would stop the loop; the dice behind it are then the ones there were before.
theorem rerollDice_sound {dice : List Die} (h : ∀ die ∈ dice, die.Sound sides options) (cup : Cup) :
    (rerollDice dice cup).2.1.length = dice.length ∧
      ∀ die ∈ (rerollDice dice cup).2.1, die.Sound sides options := by
  induction dice generalizing cup with
  | nil => exact ⟨rfl, h⟩
  | cons die dice ih =>
    have hdie := h die List.mem_cons_self
    unfold rerollDice
    cases hreroll : die.reroll.runOn cup with
    | mk outcome mid =>
      cases outcome with
      | error e => exact ⟨rfl, h⟩
      | ok die' =>
        have hdie' := (hdie.reroll hreroll).mark true
        have hrest := ih (fun other hother => h other (List.mem_cons_of_mem die hother)) mid
        refine ⟨congrArg (· + 1) hrest.1, ?_⟩
        intro other hother
        rcases List.mem_cons.mp hother with rfl | hother
        · exact hdie'
        · exact hrest.2 other hother

/-- Rerolled dice are on their sides again, also where a reroll stops. -/
theorem Sound.rerollAll (h : pool.Sound sides count options) (cup : Cup) :
    (pool.rerollAll cup).2.1.Sound sides count options := by
  have hdice := rerollDice_sound h.dice_sound cup
  exact { h with length_dice := hdice.1.trans h.length_dice, dice_sound := hdice.2 }

theorem Sound.orUnchanged (h : pool.Sound sides count options) {request : Except RollError Pool}
    (hrequest : ∀ result, request = .ok result → result.Sound sides count options) :
    (pool.orUnchanged request).Sound sides count options := by
  cases request with
  | error e => exact h
  | ok result => exact hrequest result rfl

/-- No change breaks a sound pool, whether it succeeds or is turned down. -/
theorem Sound.attempt (h : pool.Sound sides count options) (change : Change) :
    (pool.attempt change).Sound sides count options := by
  cases change with
  | keep mode number => exact h.orUnchanged fun _ => h.keep
  | highest number => exact h.orUnchanged fun _ => h.keep
  | lowest number => exact h.orUnchanged fun _ => h.keep
  | withAdvantage number => exact h.orUnchanged fun _ => h.keep
  | withDisadvantage number => exact h.orUnchanged fun _ => h.keep
  | rerollAll cup => exact h.rerollAll cup
  | bonus figure => exact h.orUnchanged fun _ => h.setBonus
  | technique t => exact { h with }
  | appearance a => exact { h with }

/-- A rolled pool stays sound whatever is asked of it. -/
theorem Sound.after (h : pool.Sound sides count options) (changes : List Change) :
    (pool.after changes).Sound sides count options := by
  induction changes generalizing pool with
  | nil => exact h
  | cons change changes ih => exact ih (h.attempt change)

/-! ## 3. Totals -/

/-- A total that no addition of 32 bits falsifies, with the bounds that its dice give it. -/
structure ExactTotal (pool : Pool) : Prop where
  value_exact : ∀ die ∈ pool.dice, die.value.toInt32.toInt = die.value.toNat
  partial_exact : ∀ front, front <+: pool.kept.map Die.value →
    (runningSum front).toInt = exactSum front
  total_exact : pool.total.toInt = pool.bonus.toInt + exactSum (pool.kept.map Die.value)
  least_le : pool.bonus.toInt + pool.kept.length ≤ pool.total.toInt
  le_most : pool.total.toInt ≤ pool.bonus.toInt + pool.kept.length * pool.sides.toNat

/-- No partial sum of a sound pool leaves the range of 32 bits. -/
theorem Sound.exactTotal (h : pool.Sound sides count options) : pool.ExactTotal := by
  have hfits := h.fits
  have hkept : ∀ value ∈ pool.kept.map Die.value, 1 ≤ value ∧ value ≤ sides := by
    intro value hvalue
    rcases List.mem_map.mp hvalue with ⟨die, hdie, rfl⟩
    have hsound := h.dice_sound die (List.mem_filter.mp hdie).1
    exact ⟨hsound.one_le_value, hsound.value_le⟩
  -- Fewer dice than the range was checked for can only make the sum smaller.
  have hlength : (pool.kept.map Die.value).length ≤ count.toNat := by
    rw [List.length_map, ← h.length_dice]
    exact List.length_filter_le _ _
  have hsum := exactSum_fits (fun value hvalue => (hkept value hvalue).2) hlength hfits
  have htotal : pool.total.toInt = pool.bonus.toInt + exactSum (pool.kept.map Die.value) := by
    rw [total_eq, toInt_runningSum_add hsum, Int.add_comm]
  have hleast := length_le_exactSum fun value hvalue => (hkept value hvalue).1
  have hmost := exactSum_le fun value hvalue => (hkept value hvalue).2
  rw [List.length_map] at hleast hmost
  refine ⟨fun die hdie => ?_, fun front hfront => ?_, htotal, by omega, ?_⟩
  · have hvalue := UInt32.le_iff_toNat_le.mp (h.dice_sound die hdie).value_le
    have hone := UInt32.le_iff_toNat_le.mp h.one_le_count
    have hsides := Nat.le_mul_of_pos_left sides.toNat hone
    rw [TotalFits, RollError.mostTotal] at hfits
    exact Width.toInt_toInt32 (by omega)
  · have hfront := exactSum_le_of_prefix hfront
    exact toInt_runningSum (by omega)
  · rw [htotal, h.sides_eq]
    omega

/-- **Totals are exact, whatever has happened to a pool.**  A pool that was rolled stays sound through
all changes, those that are turned down included, so that neither its values nor a partial sum nor
its total leaves the range of 32 bits.  Nor does the running sum of a total without dice, at any
point of its loop, or that total. -/
theorem totals_exact (sides count : UInt32) (options : RollOptions) :
    (∀ cup start cup', (roll sides count options).runOn cup = (.ok start, cup') →
      ∀ changes : List Change, (start.after changes).Sound sides count options ∧
        (start.after changes).ExactTotal) ∧
    (checkShape sides count (options.bonus.getD 0) = .ok () →
      ∀ n ≤ count.toNat, ∀ cup sum cup',
        (RollM.foldTimes (fun sum (value : UInt32) => sum + value.toInt32) 0 n
          (Cup.roll sides options.technique)).runOn cup = (.ok sum, cup') →
        ∃ values, (RollM.times n (Cup.roll sides options.technique)).runOn cup =
            (.ok values, cup') ∧ sum.toInt = exactSum values) ∧
    ∀ cup sum cup', (rollTotal sides count options).runOn cup = (.ok sum, cup') →
      ∃ values, (RollM.times count.toNat (Cup.roll sides options.technique)).runOn cup =
          (.ok values, cup') ∧ sum.toInt = exactSum values + (options.bonus.getD 0).toInt := by
  -- Both loops roll at most `count` values on the sides, and those fit with the bonus.
  have hvalues : TotalFits sides count (options.bonus.getD 0) → ∀ n ≤ count.toNat,
      ∀ cup values cup', (RollM.times n (Cup.roll sides options.technique)).runOn cup =
        (.ok values, cup') →
      exactSum values + max (options.bonus.getD 0).toInt 0 ≤ RollError.mostTotal := by
    intro hfits n hn cup values cup' h
    have hrolled := RollM.forall_mem_of_times (fun _ _ _ => Cup.roll_eq_ok) h
    apply exactSum_fits (fun value hvalue => (hrolled value hvalue).2.2) _ hfits
    rw [RollM.length_of_times h]
    exact hn
  refine ⟨fun cup start cup' h changes => ?_, fun hshape n hn cup sum cup' h => ?_,
    fun cup sum cup' h => ?_⟩
  · have hsound := (sound_of_roll h).after changes
    exact ⟨hsound, hsound.exactTotal⟩
  · rw [RollM.foldTimes_eq] at h
    rcases RollM.runOn_map_eq_ok.mp h with ⟨values, htimes, rfl⟩
    have hfits := hvalues (checkShape_eq_ok.mp hshape).2 n hn cup values cup' htimes
    exact ⟨values, htimes, toInt_runningSum (by omega)⟩
  · rw [rollTotal_eq] at h
    rcases RollM.runOn_map_eq_ok.mp h with ⟨pool, hroll, rfl⟩
    rcases roll_eq_ok hroll with ⟨_, hfits, values, htimes, rfl⟩
    have hsum := hvalues hfits count.toNat (Nat.le_refl _) cup values cup' htimes
    exact ⟨values, htimes, by rw [total_ofValues, toInt_runningSum_add hsum]⟩

def topBonus : RollOptions := { bonus := some 0x7FFFFFEB }

def plainCup : Cup := .ofSeed 1337 (.ofWords fun _ => 0)

theorem totals_exact_topBonus :
    (∃ start cup', (roll 20 1 topBonus).runOn plainCup = (.ok start, cup') ∧
      (start.after [.bonus (.whole 0x7FFFFFFF), .lowest (some 0), .keep .highest none,
        .rerollAll cup', .technique (some .secure)]).ExactTotal) ∧
    (∃ sum cup' values, (RollM.foldTimes (fun sum (value : UInt32) => sum + value.toInt32) 0 1
        (Cup.roll 20 none)).runOn plainCup = (.ok sum, cup') ∧ sum.toInt = exactSum values) ∧
    ∃ sum cup' values, (rollTotal 20 1 topBonus).runOn plainCup = (.ok sum, cup') ∧
      sum.toInt = exactSum values + 0x7FFFFFEB := by
  have hshape : checkShape 20 1 (topBonus.bonus.getD 0) = .ok () :=
    checkShape_eq_ok.mpr (by decide)
  have hexact := totals_exact 20 1 topBonus
  rcases (roll_succeeds_iff plainCup).mpr ⟨by decide, hshape⟩ with ⟨start, cup', hroll⟩
  rcases roll_eq_ok hroll with ⟨_, _, values, htimes, _⟩
  refine ⟨⟨start, cup', hroll, (hexact.1 _ start cup' hroll _).2⟩, ?_, ?_⟩
  · have hfold : (RollM.foldTimes (fun sum (value : UInt32) => sum + value.toInt32) 0 1
        (Cup.roll 20 none)).runOn plainCup = (.ok (runningSum values), cup') := by
      rw [RollM.foldTimes_eq]
      exact RollM.runOn_map_eq_ok.mpr ⟨values, htimes, rfl⟩
    rcases hexact.2.1 hshape 1 (by decide) plainCup _ cup' hfold with ⟨values, _, hsum⟩
    exact ⟨_, cup', values, hfold, hsum⟩
  · have htotal : (rollTotal 20 1 topBonus).runOn plainCup = (.ok start.total, cup') := by
      rw [rollTotal_eq]
      exact RollM.runOn_map_eq_ok.mpr ⟨start, hroll, rfl⟩
    rcases hexact.2.2 plainCup _ cup' htotal with ⟨values, _, hsum⟩
    exact ⟨_, cup', values, htotal, hsum⟩

end Pool

end DiceCup
