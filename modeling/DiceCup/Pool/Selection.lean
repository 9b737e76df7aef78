import DiceCup.Pool.Basic

/-!
# Selections — the best dice of a pool

A keep clause names a number of dice and an end of the order by face value: the highest or the
lowest.  Left out, the number is all dice but one.

A selection of `m` dice takes the best by face value; of equal dice it takes the earliest.  The
value of the last die taken, the cut, is the largest that at least `m` dice reach, and is found by
halving.  Dice above the cut all count, and of those at the cut the first ones, until there are `m`.
-/

namespace DiceCup

/-! ## Keep clauses -/

inductive KeepMode where
  | highest
  | lowest
deriving DecidableEq, Repr

structure Keep where
  mode : KeepMode
  count : UInt32
deriving DecidableEq, Repr

/-- How many dice are kept when no number is given: all but one, or the only one. -/
def defaultKeep (dice : UInt32) : UInt32 :=
  if dice = 1 then 1 else if dice = 0 then 0 else dice - 1

/-- A keep clause without a number never asks for more dice than there are. -/
theorem defaultKeep_le (dice : UInt32) : defaultKeep dice ≤ dice := by
  unfold defaultKeep
  split
  · rename_i h; exact h ▸ UInt32.le_refl 1
  · split
    · rename_i h; exact h ▸ UInt32.le_refl 0
    · rename_i h
      rw [UInt32.le_iff_toNat_le, UInt32.toNat_sub_of_le]
      · exact Nat.sub_le _ _
      · rw [UInt32.le_iff_toNat_le]
        have : dice.toNat ≠ 0 := fun h0 => h (UInt32.toNat.inj h0)
        simp only [UInt32.toNat_one]
        omega

/-! ## The best ranks -/

namespace Selection

def rank (mode : KeepMode) (value : UInt32) : Nat :=
  match mode with
  | .highest => value.toNat
  | .lowest => 0xFFFFFFFF - value.toNat

/-- The largest of the `2 ^ bits` numbers from `start` on that has a property which the numbers
lose at some point and do not regain. -/
def lastWith (p : Nat → Bool) : Nat → Nat → Nat
  | 0, start => start
  | bits + 1, start =>
    let middle := start + Nat.pow 2 bits
    lastWith p bits (if p middle then middle else start)

def cut (m : Nat) (ranks : List Nat) : Nat :=
  lastWith (fun r => m ≤ ranks.countP (r ≤ ·)) 32 0

/-- Takes the ranks above the cut, and the first of those at the cut as long as there is room. -/
def takeFrom (cut : Nat) : Nat → List Nat → List Bool
  | _, [] => []
  | room, r :: rest =>
    if cut < r then true :: takeFrom cut room rest
    else if r = cut ∧ 0 < room then true :: takeFrom cut (room - 1) rest
    else false :: takeFrom cut room rest

def best (m : Nat) (ranks : List Nat) : List Bool :=
  let c := cut m ranks
  takeFrom c (m - ranks.countP (c < ·)) ranks

end Selection

/-! ## Pools -/

namespace Pool

/-- Lets the best dice count and no others, whatever counted before.  Without a number, all but one
of the dice are kept. -/
def keep (pool : Pool) (mode : KeepMode) (number : Option UInt32) : Except RollError Pool :=
  let number := number.getD (defaultKeep pool.count)
  if pool.count < number then .error (.keepExceedsDice number pool.count)
  else
    let ranks := pool.dice.map fun die => Selection.rank mode die.value
    let chosen := Selection.best number.toNat ranks
    .ok { pool with dice := pool.dice.zipWith (fun die included => { die with included }) chosen }

def highest (pool : Pool) (number : Option UInt32) : Except RollError Pool :=
  pool.keep .highest number

def lowest (pool : Pool) (number : Option UInt32) : Except RollError Pool :=
  pool.keep .lowest number

def withAdvantage (pool : Pool) (number : Option UInt32) : Except RollError Pool :=
  pool.highest number

def withDisadvantage (pool : Pool) (number : Option UInt32) : Except RollError Pool :=
  pool.lowest number

end Pool

end DiceCup
