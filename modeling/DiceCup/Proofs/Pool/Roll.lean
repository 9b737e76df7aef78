import DiceCup.Pool.Basic
import DiceCup.Proofs.Cup.Action

/-!
# Rolled pools — a pool is made of the values that were rolled

A roll checks its shape and then rolls one value after the other; the dice are made of the values.
A total without dice does the same to the cup, and adds up the same values.
-/

namespace DiceCup

theorem Die.roll_eq (sides : UInt32) (technique : Option Technique) (appearance : Appearance) :
    Die.roll sides technique appearance =
      (fun value => ⟨sides, value, true, technique, appearance⟩) <$> Cup.roll sides technique :=
  (map_eq_pure_bind _ _).symm

namespace Pool

def ofValues (sides : UInt32) (options : RollOptions) (values : List UInt32) : Pool where
  sides := sides
  dice := values.map fun value => ⟨sides, value, true, options.technique, options.appearance⟩
  bonus := options.bonus.getD 0
  technique := options.technique
  appearance := options.appearance

/-- The sum of values in the order rolled, with 32-bit additions. -/
def runningSum (values : List UInt32) : Int32 :=
  values.foldl (fun sum value => sum + value.toInt32) 0

/-- A roll checks its shape and then makes a pool of the values. -/
theorem roll_eq (sides count : UInt32) (options : RollOptions) :
    roll sides count options = RollM.lift (checkShape sides count (options.bonus.getD 0)) >>=
      fun _ => ofValues sides options <$>
        RollM.times count.toNat (Cup.roll sides options.technique) := by
  rw [roll, Die.roll_eq, RollM.times_map]
  apply bind_congr
  intro _
  rw [bind_map_left, map_eq_pure_bind]
  rfl

/-- The total without dice comes from the same check and the same values. -/
theorem rollTotal_eq_bind (sides count : UInt32) (options : RollOptions) :
    rollTotal sides count options = RollM.lift (checkShape sides count (options.bonus.getD 0)) >>=
      fun _ => (fun values => runningSum values + options.bonus.getD 0) <$>
        RollM.times count.toNat (Cup.roll sides options.technique) := by
  rw [rollTotal, RollM.foldTimes_eq]
  apply bind_congr
  intro _
  rw [bind_map_left, map_eq_pure_bind]
  rfl

theorem total_eq (pool : Pool) :
    pool.total = runningSum (pool.kept.map Die.value) + pool.bonus := by
  rw [total, runningSum, List.foldl_map]

theorem total_ofValues (sides : UInt32) (options : RollOptions) (values : List UInt32) :
    (ofValues sides options values).total = runningSum values + options.bonus.getD 0 := by
  have hkept : (ofValues sides options values).kept = (ofValues sides options values).dice := by
    apply List.filter_eq_self.mpr
    intro die hdie
    rcases List.mem_map.mp hdie with ⟨value, _, rfl⟩
    rfl
  rw [total_eq, hkept, ofValues, List.map_map]
  change runningSum (values.map fun value => value) + options.bonus.getD 0 = _
  rw [List.map_id_fun']
  rfl

/-- A total without dice is the total of the pool that the same roll gives. -/
theorem rollTotal_eq (sides count : UInt32) (options : RollOptions) :
    rollTotal sides count options = total <$> roll sides count options := by
  rw [rollTotal_eq_bind, roll_eq, map_bind]
  apply bind_congr
  intro _
  rw [Functor.map_map]
  congr 1
  funext values
  rw [total_ofValues]

end Pool

end DiceCup
