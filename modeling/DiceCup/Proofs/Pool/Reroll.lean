import DiceCup.Proofs.Pool.Invariant

/-!
# Rerolls — rolling a pool again is rolling it for the first time

A reroll goes by the sides and the technique of each die, and those of a sound pool are the ones
that it was rolled with, whatever has become of the pool's own technique and appearance.  So die by
die it does what the first roll did.
-/

namespace DiceCup

variable {sides count : UInt32} {options : RollOptions} {cup cup' : Cup}

/-- A reroll does not touch the mark of a die, and the pool sets it behind. -/
theorem Die.Sound.reroll_eq {die : Die} (h : die.Sound sides options) :
    (fun die : Die => { die with included := true }) <$> die.reroll =
      Die.roll sides options.technique options.appearance := by
  rw [Die.reroll, Die.roll, map_bind, h.sides_eq, h.technique_eq]
  apply bind_congr
  intro value
  rw [map_pure, h.appearance_eq]

namespace Pool

theorem rerollDice_eq {dice fresh : List Die} (hdice : ∀ die ∈ dice, die.Sound sides options)
    (h : (RollM.times dice.length (Die.roll sides options.technique options.appearance)).runOn cup =
      (.ok fresh, cup')) : rerollDice dice cup = (.ok (), fresh, cup') := by
  induction dice generalizing cup fresh with
  | nil =>
    cases h
    rfl
  | cons die dice ih =>
    have hdie := hdice die List.mem_cons_self
    have hrest := fun other hother => hdice other (List.mem_cons_of_mem die hother)
    rw [List.length_cons, RollM.times_succ] at h
    obtain ⟨first, mid, hfirst, hmap⟩ := RollM.runOn_bind_eq_ok h
    obtain ⟨others, hothers, rfl⟩ := RollM.runOn_map_eq_ok.mp hmap
    rw [← hdie.reroll_eq] at hfirst
    obtain ⟨rolled, hrolled, rfl⟩ := RollM.runOn_map_eq_ok.mp hfirst
    simp only [rerollDice, hrolled, ih hrest hothers]

theorem times_roll_of_roll {fresh : Pool}
    (h : (roll sides count options).runOn cup = (.ok fresh, cup')) :
    (RollM.times count.toNat (Die.roll sides options.technique options.appearance)).runOn cup =
      (.ok fresh.dice, cup') := by
  obtain ⟨_, _, values, hvalues, rfl⟩ := roll_eq_ok h
  rw [Die.roll_eq, RollM.times_map]
  exact RollM.runOn_map_eq_ok.mpr ⟨values, hvalues, rfl⟩

/-- A reroll gives the dice that a fresh roll would give on the same cup. -/
theorem Sound.rerollAll_eq {pool fresh : Pool} (hpool : pool.Sound sides count options)
    (h : (roll sides count options).runOn cup = (.ok fresh, cup')) :
    pool.rerollAll cup = (.ok (), { pool with dice := fresh.dice }, cup') := by
  have htimes := times_roll_of_roll h
  rw [← hpool.length_dice] at htimes
  rw [Pool.rerollAll, rerollDice_eq hpool.dice_sound htimes]

/-- **A reroll is a fresh roll.**  Whatever was done to a pool since it was rolled, to roll it again
with a cup succeeds, gives the dice that a new pool of the same sides, number and options gets from
that cup, and leaves the same cup.  The pool keeps its bonus, technique and appearance. -/
theorem reroll_fresh {cup₀ cup₁ : Cup} {start : Pool}
    (h : (roll sides count options).runOn cup₀ = (.ok start, cup₁)) (changes : List Change)
    (cup : Cup) :
    ∃ fresh cup', (roll sides count options).runOn cup = (.ok fresh, cup') ∧
      (start.after changes).rerollAll cup =
        (.ok (), { start.after changes with dice := fresh.dice }, cup') := by
  have hsound := (sound_of_roll h).after changes
  -- A roll that succeeds with one cup succeeds with any.
  have hrolls := (roll_succeeds_iff cup₀).mp ⟨start, cup₁, h⟩
  obtain ⟨fresh, cup', hfresh⟩ := (roll_succeeds_iff cup).mpr hrolls
  exact ⟨fresh, cup', hfresh, hsound.rerollAll_eq hfresh⟩

def restlessCup : Cup :=
  { Cup.ofSeed 7 (.ofWords fun n => n.toUInt32) with interval := Interval.ofRolls? 2 }

def steady : RollOptions := { technique := some .seededGlobal }

theorem reroll_fresh_restless :
    ∃ start cup₁, (roll 20 3 steady).runOn plainCup = (.ok start, cup₁) ∧
      let pool := start.after [.technique (some .secure), .lowest (some 9), .highest (some 1),
        .rerollAll cup₁, .appearance { foreground := "#FF0000" }, .bonus (.whole 4)]
      ∃ fresh cup', (roll 20 3 steady).runOn restlessCup = (.ok fresh, cup') ∧
        pool.rerollAll restlessCup = (.ok (), { pool with dice := fresh.dice }, cup') := by
  have hshape : checkShape 20 3 (steady.bonus.getD 0) = .ok () := checkShape_eq_ok.mpr (by decide)
  obtain ⟨start, cup₁, hroll⟩ := (roll_succeeds_iff plainCup).mpr ⟨by decide, hshape⟩
  exact ⟨start, cup₁, hroll, reroll_fresh hroll _ restlessCup⟩

end Pool

end DiceCup
