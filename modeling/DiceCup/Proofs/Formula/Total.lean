import DiceCup.Formula.Roll
import DiceCup.Proofs.Pool.Roll

/-!
# Totals of formulas — rolling dice and totalling them are one

A formula's total is the total of the pool that it rolls: the result, the failure and the cup
afterwards are the same, whichever of the two ways is taken.  So the outcome of a formula is made of
the pool in any case.
-/

namespace DiceCup.Formula

/-- The fast way to a total, without keeping dice, ends as the roll of the dice does. -/
theorem total_eq (f : Formula) (options : RollOptions) :
    f.total options = Pool.total <$> f.roll options := by
  unfold total
  cases hkeep : f.keep with
  | some keep => rfl
  | none =>
    rw [roll, hkeep, map_bind]
    apply bind_congr
    intro merged
    rw [Pool.rollTotal_eq, bind_pure]

def outcomeOf : Action → Pool → Outcome
  | .roll, pool => .dice pool
  | .total, pool => .total pool.total

theorem invoke_eq (f : Formula) (options : RollOptions) :
    f.invoke options = outcomeOf f.action <$> f.roll options := by
  unfold invoke
  cases f.action with
  | roll => rfl
  | total =>
    rw [total_eq, Functor.map_map]
    rfl

/-- **The total of a formula agrees with its roll**, from every cup: it gives the total of the pool
that the roll gives, fails as the roll fails, and leaves the same cup in either case.  The same holds
of a plain roll and the total that is rolled without dice. -/
theorem total_agrees_roll (f : Formula) (options : RollOptions) (cup cup' : Cup) :
    (∀ sum, (f.total options).runOn cup = (.ok sum, cup') ↔
      ∃ pool, (f.roll options).runOn cup = (.ok pool, cup') ∧ pool.total = sum) ∧
    (∀ e, (f.total options).runOn cup = (.error e, cup') ↔
      (f.roll options).runOn cup = (.error e, cup')) ∧
    ∀ sides count,
      (∀ sum, (Pool.rollTotal sides count options).runOn cup = (.ok sum, cup') ↔
        ∃ pool, (Pool.roll sides count options).runOn cup = (.ok pool, cup') ∧ pool.total = sum) ∧
      ∀ e, (Pool.rollTotal sides count options).runOn cup = (.error e, cup') ↔
        (Pool.roll sides count options).runOn cup = (.error e, cup') := by
  rw [total_eq]
  refine ⟨fun _ => RollM.runOn_map_eq_ok, fun _ => RollM.runOn_map_eq_error, fun sides count => ?_⟩
  rw [Pool.rollTotal_eq]
  exact ⟨fun _ => RollM.runOn_map_eq_ok, fun _ => RollM.runOn_map_eq_error⟩

end DiceCup.Formula
