import DiceCup.Formula.Basic
import DiceCup.Pool.Selection

/-!
# Rolling a formula — from request to outcome

The outcome of a formula is a pool or a plain total.  A formula with a modifier and options with a
bonus have to agree on it.
-/

namespace DiceCup

inductive Outcome where
  | dice (pool : Pool)
  | total (sum : Int32)
deriving DecidableEq, Repr

namespace Outcome

def value : Outcome → Int32
  | .dice pool => pool.total
  | .total sum => sum

def text : Outcome → String
  | .dice pool => pool.text
  | .total sum => Text.intText sum.toInt

def pool? : Outcome → Option Pool
  | .dice pool => some pool
  | .total _ => none

end Outcome

namespace Formula

/-- The bonus to roll with: the modifier or the explicit bonus, which must not differ. -/
def mergeBonus (f : Formula) (explicit : Option Int32) : Except RollError (Option Int32) :=
  match explicit, f.modifier with
  | some explicit, some encoded =>
    if explicit = encoded then .ok (some encoded) else .error (.bonusMismatch explicit encoded)
  | some explicit, none => .ok (some explicit)
  | none, encoded => .ok encoded

def mergeOptions (f : Formula) (options : RollOptions) : Except RollError RollOptions := do
  let bonus ← f.mergeBonus options.bonus
  return { options with bonus }

def roll (f : Formula) (options : RollOptions) : RollM Pool := do
  let options ← RollM.lift (f.mergeOptions options)
  let pool ← Pool.roll f.sides f.count options
  match f.keep with
  | some keep => RollM.lift (pool.keep keep.mode (some keep.count))
  | none => return pool

/-- Rolls and totals; without a keep clause no dice are kept around. -/
def total (f : Formula) (options : RollOptions) : RollM Int32 :=
  match f.keep with
  | some _ => Pool.total <$> f.roll options
  | none => do
    let options ← RollM.lift (f.mergeOptions options)
    Pool.rollTotal f.sides f.count options

def invoke (f : Formula) (options : RollOptions) : RollM Outcome :=
  match f.action with
  | .roll => Outcome.dice <$> f.roll options
  | .total => Outcome.total <$> f.total options

end Formula

end DiceCup
