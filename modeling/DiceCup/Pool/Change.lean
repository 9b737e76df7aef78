import DiceCup.Pool.Selection

/-!
# Changes — what may happen to a pool after it was rolled

A selection or a bonus that is turned down leaves the pool as it is.  A reroll comes with the cup as
it is at that time; if it fails, the dice in front of the one without sides are rolled already.
-/

namespace DiceCup

namespace Pool

inductive Change where
  | keep (mode : KeepMode) (number : Option UInt32)
  | highest (number : Option UInt32)
  | lowest (number : Option UInt32)
  | withAdvantage (number : Option UInt32)
  | withDisadvantage (number : Option UInt32)
  | rerollAll (cup : Cup)
  | bonus (figure : Figure)
  | technique (t : Option Technique)
  | appearance (a : Appearance)

/-- The pool that a request gives, or the one that it was made of if it is turned down. -/
def orUnchanged (pool : Pool) (request : Except RollError Pool) : Pool :=
  request.toOption.getD pool

def attempt (pool : Pool) : Change → Pool
  | .keep mode number => pool.orUnchanged (pool.keep mode number)
  | .highest number => pool.orUnchanged (pool.highest number)
  | .lowest number => pool.orUnchanged (pool.lowest number)
  | .withAdvantage number => pool.orUnchanged (pool.withAdvantage number)
  | .withDisadvantage number => pool.orUnchanged (pool.withDisadvantage number)
  | .rerollAll cup => (pool.rerollAll cup).2.1
  | .bonus figure => pool.orUnchanged (pool.setBonus figure)
  | .technique t => { pool with technique := t }
  | .appearance a => { pool with appearance := a }

def after (pool : Pool) (changes : List Change) : Pool := changes.foldl attempt pool

end Pool

end DiceCup
