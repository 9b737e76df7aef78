import DiceCup.Proofs.Formula.Refusal

/-!
# Bonuses — what the dice do not feel

The bonus and the appearance of the options are put on a pool when its values are rolled already,
and a selection looks at the values alone.  So rolling with another bonus and another appearance is
rolling the same dice and dressing them differently.  It does not matter either whether the bonus
comes with the formula, with the options or with both.
-/

namespace DiceCup

namespace Pool

/-! ## 1. Dressed pools -/

/-- The pool with the bonus and the appearance that options ask for, also on each die. -/
def dressed (pool : Pool) (options : RollOptions) : Pool :=
  { pool with
    dice := pool.dice.map fun die => { die with appearance := options.appearance }
    bonus := options.bonus.getD 0
    appearance := options.appearance }

theorem ofValues_eq_dressed {options others : RollOptions}
    (htechnique : others.technique = options.technique) (sides : UInt32) (values : List UInt32) :
    ofValues sides others values = (ofValues sides options values).dressed others := by
  simp only [ofValues, dressed, List.map_map, htechnique]
  rfl

variable (pool : Pool) (options : RollOptions)

/-- Another bonus and appearance change nothing about the number of dice. -/
theorem count_dressed : (pool.dressed options).count = pool.count := by
  rw [count, dressed, List.length_map]
  rfl

theorem ranks_dressed (mode : KeepMode) : (pool.dressed options).ranks mode = pool.ranks mode := by
  rw [ranks, dressed, List.map_map]
  rfl

theorem marked_dressed (marks : List Bool) :
    (pool.dressed options).marked marks = (pool.marked marks).dressed options := by
  rw [marked, dressed, dressed, marked, List.zipWith_map_left, List.map_zipWith]

theorem values_kept_dressed :
    (pool.dressed options).kept.map Die.value = pool.kept.map Die.value := by
  rw [kept, dressed, List.filter_map, List.map_map]
  rfl

/-- A selection chooses the same dice, however they are dressed. -/
theorem keep_dressed (mode : KeepMode) (number : Option UInt32) :
    (pool.dressed options).keep mode number =
      (pool.keep mode number).map fun result => result.dressed options := by
  have hcount := count_dressed pool options
  have hnumber : (pool.dressed options).numberOf number = pool.numberOf number := by
    rw [numberOf, hcount, numberOf]
  by_cases h : pool.count < pool.numberOf number
  · rw [keep_eq_error h, keep_eq_error (by rw [hcount, hnumber]; exact h), hcount, hnumber]
    rfl
  · have hle := UInt32.not_lt.mp h
    rw [keep_eq_ok hle, keep_eq_ok (by rw [hcount, hnumber]; exact hle), hnumber, ranks_dressed,
      marked_dressed]
    rfl

end Pool

namespace Formula

variable {f : Formula} {options others : RollOptions} {pool other : Pool} {cup cup' last : Cup}

/-! ## 2. Two rolls from one cup -/

/-- A selection does not look at the bonus and the appearance. -/
theorem select_dressed (f : Formula) (pool : Pool) (options : RollOptions) :
    f.select (pool.dressed options) =
      (f.select pool).map fun result => result.dressed options := by
  unfold select
  cases f.keep with
  | none => rfl
  | some keep => exact Pool.keep_dressed pool options keep.mode (some keep.count)

/-- A formula that is rolled rolls its dice, by the merged options, and selects some of them. -/
theorem roll_eq_ok (h : (f.roll options).runOn cup = (.ok pool, cup')) :
    ∃ rolled, (Pool.roll f.sides f.count (f.mergedOptions options)).runOn cup =
      (.ok rolled, cup') ∧ f.select rolled = .ok pool := by
  cases hrefusal : f.refusal? options with
  | some e =>
    rw [runOn_roll_of_refusal cup hrefusal] at h
    cases h
  | none =>
    obtain ⟨rolled, mid, hroll, hselect⟩ := exists_roll_of_no_refusal cup hrefusal
    rw [hselect, Prod.mk.injEq] at h
    exact ⟨rolled, by rw [hroll, h.2], h.1⟩

/-- A total is that of the pool which could have been rolled. -/
theorem total_eq_ok_iff {sum : Int32} : (f.total options).runOn cup = (.ok sum, cup') ↔
    ∃ pool, (f.roll options).runOn cup = (.ok pool, cup') ∧ pool.total = sum := by
  rw [total_eq]
  exact RollM.runOn_map_eq_ok

theorem sound_of_roll (h : (f.roll options).runOn cup = (.ok pool, cup')) :
    pool.Sound f.sides f.count (f.mergedOptions options) := by
  obtain ⟨rolled, hroll, hselect⟩ := roll_eq_ok h
  have hsound := Pool.sound_of_roll hroll
  unfold select at hselect
  -- A selection keeps a pool sound, and without one the pool is as it was rolled.
  split at hselect
  next keep hkeep => exact hsound.keep hselect
  next =>
    cases hselect
    exact hsound

/-- Two rolls of a formula from one cup, by one technique, are the same but for bonus and
appearance. -/
theorem roll_dressed (htechnique : others.technique = options.technique)
    (h : (f.roll options).runOn cup = (.ok pool, cup'))
    (hother : (f.roll others).runOn cup = (.ok other, last)) :
    last = cup' ∧ other = pool.dressed (f.mergedOptions others) := by
  obtain ⟨rolled, hroll, hselect⟩ := roll_eq_ok h
  obtain ⟨again, hagain, hselectAgain⟩ := roll_eq_ok hother
  obtain ⟨_, _, values, hvalues, rfl⟩ := Pool.roll_eq_ok hroll
  obtain ⟨_, _, same, hsame, rfl⟩ := Pool.roll_eq_ok hagain
  -- Both take their values from the cup by the same technique, and nothing else.
  have hmerged : (f.mergedOptions others).technique = (f.mergedOptions options).technique :=
    htechnique
  rw [hmerged, hvalues] at hsame
  cases hsame
  refine ⟨rfl, ?_⟩
  rw [Pool.ofValues_eq_dressed hmerged, select_dressed, hselect] at hselectAgain
  exact (Except.ok.inj hselectAgain).symm

/-- The total of a roll is its bonus and the sum of the dice that count, without wrapping. -/
theorem toInt_total_of_roll (h : (f.roll options).runOn cup = (.ok pool, cup')) :
    pool.total.toInt = ((f.mergedOptions options).bonus.getD 0).toInt +
      Pool.exactSum (pool.kept.map Die.value) := by
  have hbonus : pool.bonus = (f.mergedOptions options).bonus.getD 0 :=
    congrArg Pool.bonus (roll_dressed rfl h h).2
  rw [(sound_of_roll h).exactTotal.total_exact, hbonus]

/-- Their totals are apart by as much as their bonuses. -/
theorem total_apart (htechnique : others.technique = options.technique)
    (h : (f.roll options).runOn cup = (.ok pool, cup'))
    (hother : (f.roll others).runOn cup = (.ok other, last)) :
    other.total.toInt - pool.total.toInt = ((f.mergedOptions others).bonus.getD 0).toInt -
      ((f.mergedOptions options).bonus.getD 0).toInt := by
  -- The same dice count with the same values.
  have hkept : other.kept.map Die.value = pool.kept.map Die.value := by
    rw [(roll_dressed htechnique h hother).2, Pool.values_kept_dressed]
  rw [toInt_total_of_roll h, toInt_total_of_roll hother, hkept]
  omega

/-! ## 3. Where the bonus comes from -/

theorem invoke_congr {x y : Option Int32}
    (h : ({ f with modifier := x }).mergeOptions options =
      ({ f with modifier := y }).mergeOptions others) :
    ({ f with modifier := x }).invoke options = ({ f with modifier := y }).invoke others := by
  have hroll : ({ f with modifier := x }).roll options =
      ({ f with modifier := y }).roll others := by
    unfold roll
    rw [h]
  rw [invoke_eq, invoke_eq, hroll]

/-- **The dice do not feel the bonus, nor how they look.**  Rolls of a formula from one cup, with
options that name the same technique, leave the same cup and the same pool up to its bonus and
appearance; and their totals differ by what their bonuses differ.  A bonus that comes with the
formula, with the options or with both gives the same outcome, or fails in the same way, and leaves
the same cup. -/
theorem bonus_apart (f : Formula) (options others : RollOptions) (cup : Cup) :
    (others.technique = options.technique → ∀ pool other cup' last,
      (f.roll options).runOn cup = (.ok pool, cup') →
      (f.roll others).runOn cup = (.ok other, last) →
      last = cup' ∧ other = pool.dressed (f.mergedOptions others) ∧
      other.total.toInt - pool.total.toInt = ((f.mergedOptions others).bonus.getD 0).toInt -
        ((f.mergedOptions options).bonus.getD 0).toInt) ∧
    (others.technique = options.technique → ∀ sum other cup' last,
      (f.total options).runOn cup = (.ok sum, cup') →
      (f.total others).runOn cup = (.ok other, last) →
      last = cup' ∧ other.toInt - sum.toInt = ((f.mergedOptions others).bonus.getD 0).toInt -
        ((f.mergedOptions options).bonus.getD 0).toInt) ∧
    ∀ m : Int32,
      let encoded := ({ f with modifier := some m }).invoke { options with bonus := none }
      let explicit := ({ f with modifier := none }).invoke { options with bonus := some m }
      let both := ({ f with modifier := some m }).invoke { options with bonus := some m }
      encoded.runOn cup = both.runOn cup ∧ explicit.runOn cup = both.runOn cup := by
  refine ⟨?rolls, ?totals, ?sources⟩
  case rolls =>
    intro htechnique pool other cup' last h hother
    obtain ⟨hlast, hpool⟩ := roll_dressed htechnique h hother
    exact ⟨hlast, hpool, total_apart htechnique h hother⟩
  case totals =>
    intro htechnique sum other cup' last h hother
    obtain ⟨pool, hroll, rfl⟩ := total_eq_ok_iff.mp h
    obtain ⟨again, hagain, rfl⟩ := total_eq_ok_iff.mp hother
    exact ⟨(roll_dressed htechnique hroll hagain).1, total_apart htechnique hroll hagain⟩
  case sources =>
    intro m encoded explicit both
    -- The bonus that both name is merged to itself, as is one that a single one names.
    have hboth : ({ f with modifier := some m }).mergeOptions { options with bonus := some m } =
        .ok { options with bonus := some m } := by
      simp [mergeOptions, mergeBonus, bind, Except.bind, pure, Except.pure]
    have hencoded : encoded = both := invoke_congr hboth.symm
    have hexplicit : explicit = both := invoke_congr hboth.symm
    rw [hencoded, hexplicit]
    exact ⟨rfl, rfl⟩

def bestPair : Formula := ⟨.roll, 20, 3, some ⟨.highest, 2⟩, none⟩

def cold : RollOptions := { bonus := some (-5), appearance := { damageType := some "cold" } }

theorem bonus_apart_cold :
    ∃ pool other cup', (bestPair.roll {}).runOn Pool.plainCup = (.ok pool, cup') ∧
      (bestPair.roll cold).runOn Pool.plainCup = (.ok other, cup') ∧
      other = pool.dressed cold ∧ other.total.toInt - pool.total.toInt = -5 ∧
      ∃ sum less, (bestPair.total {}).runOn Pool.plainCup = (.ok sum, cup') ∧
        (bestPair.total cold).runOn Pool.plainCup = (.ok less, cup') ∧
        less.toInt - sum.toInt = -5 := by
  have hrolls (options : RollOptions) (h : bestPair.refusal? options = none) :
      ∃ pool cup', (bestPair.roll options).runOn Pool.plainCup = (.ok pool, cup') := by
    obtain ⟨rolled, cup', hrolled, hroll⟩ := exists_roll_of_no_refusal Pool.plainCup h
    obtain ⟨pool, hselect⟩ := exists_select (Pool.sound_of_roll hrolled).count_eq (by decide)
    exact ⟨pool, cup', by rw [hroll, hselect]⟩
  obtain ⟨pool, cup', hpool⟩ := hrolls {} (by decide)
  obtain ⟨other, last, hother⟩ := hrolls cold (by decide)
  have htotal {options : RollOptions} {pool : Pool} {cup' : Cup}
      (h : (bestPair.roll options).runOn Pool.plainCup = (.ok pool, cup')) :
      (bestPair.total options).runOn Pool.plainCup = (.ok pool.total, cup') :=
    total_eq_ok_iff.mpr ⟨pool, h, rfl⟩
  have hapart := bonus_apart bestPair {} cold Pool.plainCup
  obtain ⟨rfl, hdressed, hdifference⟩ := hapart.1 rfl _ _ _ _ hpool hother
  have htotals := hapart.2.1 rfl _ _ _ _ (htotal hpool) (htotal hother)
  exact ⟨pool, other, _, hpool, hother, hdressed, hdifference, _, _, htotal hpool, htotal hother,
    htotals.2⟩

end Formula

end DiceCup
