import DiceCup.Proofs.Pool.Reroll
import Mathlib.Data.List.Forall2

/-!
# Halted rerolls — any dice are rolled again up to the first without sides

A pool that was read, and not rolled, may hold dice of different sides, and dice without any.  A
reroll goes through them in order, each by its own sides and technique.  Dice that have sides cannot
stop it, whatever the cup does in between, so it ends in front of the first die that has none or
behind the last one.
-/

namespace DiceCup

def Die.showing (die : Die) (value : UInt32) : Die := { die with value, included := true }

def Die.makeup (die : Die) : UInt32 × Option Technique × Appearance :=
  (die.sides, die.technique, die.appearance)

def Cup.rollInOrder (dice : List Die) : RollM (List UInt32) :=
  dice.mapM fun die => Cup.roll die.sides die.technique

namespace Pool

variable {dice front rest : List Die} {die : Die} {values : List UInt32} {cup mid cup' : Cup}

/-! ## 1. Dice with sides -/

/-- The values of dice rolled once in order, from one cup to another, each on a side of its die. -/
structure RolledOnce (cup : Cup) (dice : List Die) (values : List UInt32) (cup' : Cup) : Prop where
  rolls : (Cup.rollInOrder dice).runOn cup = (.ok values, cup')
  sides : List.Forall₂ (fun die value => 1 ≤ value ∧ value ≤ die.sides) dice values

theorem rollInOrder_cons (die : Die) (dice : List Die) : Cup.rollInOrder (die :: dice) = (do
    let value ← Cup.roll die.sides die.technique
    (value :: ·) <$> Cup.rollInOrder dice) := by
  unfold Cup.rollInOrder
  rw [List.mapM_cons]
  apply bind_congr
  intro value
  rw [map_eq_pure_bind]

/-- Dice that all have sides can be rolled one after the other. -/
theorem exists_rolledOnce (h : ∀ die ∈ dice, die.sides ≠ 0) (cup : Cup) :
    ∃ values cup', RolledOnce cup dice values cup' := by
  -- The cup is not fixed: each die finds the one that the dice in front of it left.
  induction dice generalizing cup with
  | nil => exact ⟨[], cup, rfl, .nil⟩
  | cons die dice ih =>
    obtain ⟨value, mid, hvalue⟩ : ∃ value mid,
        (Cup.roll die.sides die.technique).runOn cup = (.ok value, mid) :=
      ⟨_, _, Cup.runOn_roll (h die List.mem_cons_self) die.technique cup⟩
    have hdice := fun other hother => h other (List.mem_cons_of_mem die hother)
    obtain ⟨values, cup', hrest⟩ := ih hdice mid
    refine ⟨value :: values, cup', ?_, .cons (Cup.roll_eq_ok hvalue).2 hrest.sides⟩
    rw [rollInOrder_cons, RollM.runOn_bind, hvalue]
    exact RollM.runOn_map_eq_ok.mpr ⟨values, hrest.rolls, rfl⟩

/-! ## 2. The course of a reroll -/

/-- The reroll of a die is a roll of its sides, and the pool marks it behind. -/
theorem rerollDice_cons {value : UInt32}
    (h : (Cup.roll die.sides die.technique).runOn cup = (.ok value, mid)) :
    rerollDice (die :: rest) cup = ((rerollDice rest mid).1,
      die.showing value :: (rerollDice rest mid).2.1, (rerollDice rest mid).2.2) := by
  have hdie : die.reroll.runOn cup = (.ok { die with value }, mid) := by
    rw [Die.reroll, RollM.runOn_bind, h]
    rfl
  rw [rerollDice, hdie]
  rfl

/-- A die without sides stops a reroll, and it and the dice behind it stay as they are. -/
theorem rerollDice_of_no_sides (h : die.sides = 0) (rest : List Die) (cup : Cup) :
    rerollDice (die :: rest) cup = (.error Cup.noSides, die :: rest, cup) := by
  have hdie : die.reroll.runOn cup = (.error Cup.noSides, cup) := by
    rw [Die.reroll, h, RollM.runOn_bind, Cup.runOn_roll_zero]
  rw [rerollDice, hdie]

/-- Behind dice that were all rolled, a reroll goes on with the cup that they left. -/
theorem rerollDice_append (h : (Cup.rollInOrder front).runOn cup = (.ok values, mid))
    (rest : List Die) :
    rerollDice (front ++ rest) cup = ((rerollDice rest mid).1,
      front.zipWith Die.showing values ++ (rerollDice rest mid).2.1,
      (rerollDice rest mid).2.2) := by
  -- By induction on the dice in front; the reroll meets the cups that the rolls meet.
  induction front generalizing cup values with
  | nil =>
    cases h
    rfl
  | cons die front ih =>
    rw [rollInOrder_cons] at h
    obtain ⟨value, next, hvalue, hmap⟩ := RollM.runOn_bind_eq_ok h
    obtain ⟨others, hothers, rfl⟩ := RollM.runOn_map_eq_ok.mp hmap
    rw [List.cons_append, rerollDice_cons hvalue, ih hothers]
    rfl

/-- A reroll leaves every die as it was made, whether it gets as far as that die or not. -/
theorem map_makeup_rerollDice (dice : List Die) (cup : Cup) :
    (rerollDice dice cup).2.1.map Die.makeup = dice.map Die.makeup := by
  induction dice generalizing cup with
  | nil => rfl
  | cons die dice ih =>
    -- A die without sides is not touched, and a roll of another one sets only what it shows.
    by_cases hsides : die.sides = 0
    · rw [rerollDice_of_no_sides hsides]
    · rw [rerollDice_cons (Cup.runOn_roll hsides die.technique cup), List.map_cons, ih]
      rfl

/-! ## 3. Where it ends -/

theorem rerollAll_of_no_sides {pool : Pool} (hdice : pool.dice = front ++ die :: rest)
    (hfront : ∀ other ∈ front, other.sides ≠ 0) (hdie : die.sides = 0) (cup : Cup) :
    ∃ values cup', RolledOnce cup front values cup' ∧ pool.rerollAll cup =
      (.error Cup.noSides, { pool with dice := front.zipWith Die.showing values ++ die :: rest },
        cup') := by
  obtain ⟨values, cup', h⟩ := exists_rolledOnce hfront cup
  refine ⟨values, cup', h, ?_⟩
  rw [rerollAll, hdice, rerollDice_append h.rolls, rerollDice_of_no_sides hdie]

theorem rerollAll_of_sides {pool : Pool} (hdice : ∀ die ∈ pool.dice, die.sides ≠ 0) (cup : Cup) :
    ∃ values cup', RolledOnce cup pool.dice values cup' ∧ pool.rerollAll cup =
      (.ok (), { pool with dice := pool.dice.zipWith Die.showing values }, cup') := by
  obtain ⟨values, cup', h⟩ := exists_rolledOnce hdice cup
  have hall := rerollDice_append h.rolls []
  rw [List.append_nil, rerollDice, List.append_nil] at hall
  exact ⟨values, cup', h, by rw [rerollAll, hall]⟩

/-- The first die without sides, if there is one, parts the dice of a pool in two. -/
theorem exists_first_without_sides (h : ∃ die ∈ dice, die.sides = 0) :
    ∃ front die rest, dice = front ++ die :: rest ∧ (∀ other ∈ front, other.sides ≠ 0) ∧
      die.sides = 0 := by
  obtain ⟨die, hdie⟩ := Option.isSome_iff_exists.mp
    (List.find?_isSome (p := fun die : Die => decide (die.sides = 0)) |>.mpr (by simpa using h))
  obtain ⟨hsides, front, rest, hdice, hfront⟩ := List.find?_eq_some_iff_append.mp hdie
  exact ⟨front, die, rest, hdice, by simpa using hfront, by simpa using hsides⟩

/-- **A reroll of any dice halts in front of the first one without sides, and nowhere else.**  It
fails if there is such a die and only then, always with the same complaint.  The dice in front of
it, or all dice if there is none, are then rolled once in order, each by its own sides and
technique; each shows a value on one of its sides and counts.  That die and those behind it are as
they were, and the cup is the one that the rolls left.  Dice keep their order, sides, techniques and
appearances, and the pool keeps all but its dice. -/
theorem reroll_halts (pool : Pool) (cup : Cup) :
    ((∃ e, (pool.rerollAll cup).1 = .error e) ↔ ∃ die ∈ pool.dice, die.sides = 0) ∧
    (∀ e, (pool.rerollAll cup).1 = .error e → e = .notPositive "number of sides" 0) ∧
    (∀ front die rest, pool.dice = front ++ die :: rest → (∀ other ∈ front, other.sides ≠ 0) →
      die.sides = 0 →
      ∃ values cup', RolledOnce cup front values cup' ∧ pool.rerollAll cup =
        (.error Cup.noSides, { pool with dice := front.zipWith Die.showing values ++ die :: rest },
          cup')) ∧
    ((∀ die ∈ pool.dice, die.sides ≠ 0) →
      ∃ values cup', RolledOnce cup pool.dice values cup' ∧ pool.rerollAll cup =
        (.ok (), { pool with dice := pool.dice.zipWith Die.showing values }, cup')) ∧
    (pool.rerollAll cup).2.1.dice.map Die.makeup = pool.dice.map Die.makeup ∧
    ∃ dice, (pool.rerollAll cup).2.1 = { pool with dice } := by
  -- The result depends on the dice alone, and so the two ways to end exclude each other.
  have hresult : (pool.rerollAll cup).1 =
      if ∃ die ∈ pool.dice, die.sides = 0 then .error Cup.noSides else .ok () := by
    split
    next h =>
      obtain ⟨front, die, rest, hdice, hfront, hdie⟩ := exists_first_without_sides h
      obtain ⟨_, _, _, hreroll⟩ := rerollAll_of_no_sides hdice hfront hdie cup
      rw [hreroll]
    next h =>
      have hdice : ∀ die ∈ pool.dice, die.sides ≠ 0 := fun die hmem hzero => h ⟨die, hmem, hzero⟩
      obtain ⟨_, _, _, hreroll⟩ := rerollAll_of_sides hdice cup
      rw [hreroll]
  refine ⟨?fails, ?complaint,
    fun _ _ _ hdice hfront hdie => rerollAll_of_no_sides hdice hfront hdie cup,
    fun hdice => rerollAll_of_sides hdice cup, map_makeup_rerollDice pool.dice cup, _, rfl⟩
  case fails =>
    rw [hresult]
    split
    next h => exact ⟨fun _ => h, fun _ => ⟨_, rfl⟩⟩
    next h => exact ⟨fun ⟨_, he⟩ => (nomatch he), fun hzero => absurd hzero h⟩
  case complaint =>
    intro e he
    rw [hresult] at he
    split at he <;> cases he
    rfl

/-- Dice of different sides, as they may be read: one shows more than its sides, one does not count,
and the third has no sides. -/
def mixedPool : Pool where
  sides := 6
  dice := [⟨6, 9, true, some .seededGlobal, {}⟩,
    ⟨20, 3, false, none, { damageType := some "cold" }⟩,
    ⟨0, 5, false, none, {}⟩, ⟨4, 2, false, some .secure, {}⟩]
  bonus := -1
  technique := some .secure
  appearance := {}

theorem reroll_halts_mixed :
    (∃ a b cup', RolledOnce restlessCup (mixedPool.dice.take 2) [a, b] cup' ∧
      mixedPool.rerollAll restlessCup = (.error Cup.noSides,
        { mixedPool with dice := ⟨6, a, true, some .seededGlobal, {}⟩ ::
          ⟨20, b, true, none, { damageType := some "cold" }⟩ :: mixedPool.dice.drop 2 }, cup')) ∧
    ∃ values cup', RolledOnce restlessCup (mixedPool.dice.eraseIdx 2) values cup' ∧
      ({ mixedPool with dice := mixedPool.dice.eraseIdx 2 } : Pool).rerollAll restlessCup =
        (.ok (), { mixedPool with dice := (mixedPool.dice.eraseIdx 2).zipWith Die.showing values },
          cup') := by
  constructor
  · obtain ⟨values, cup', hrolled, hreroll⟩ := (reroll_halts mixedPool restlessCup).2.2.1
      (mixedPool.dice.take 2) ⟨0, 5, false, none, {}⟩ [⟨4, 2, false, some .secure, {}⟩] rfl
      (by decide) rfl
    obtain ⟨a, b, rfl⟩ := List.length_eq_two.mp hrolled.sides.length_eq.symm
    exact ⟨a, b, cup', hrolled, hreroll⟩
  · -- Without the third die nothing stops it.
    have hsides : ∀ die ∈ mixedPool.dice.eraseIdx 2, die.sides ≠ 0 := by decide
    exact (reroll_halts { mixedPool with dice := mixedPool.dice.eraseIdx 2 } restlessCup).2.2.2.1
      hsides

end Pool

end DiceCup
