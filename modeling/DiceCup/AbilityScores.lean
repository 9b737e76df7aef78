import DiceCup.Formula.Basic
import DiceCup.Settings.Basic

/-!
# Ability scores — an array of pools with the highest dice kept

How many pools, of how many dice with how many sides, and how many of them are kept, is said by the
request or else by the settings.
-/

namespace DiceCup

/-- The shape of one array; the settings say what is left open. -/
structure AbilityRequest where
  arraySize : Option UInt32 := none
  sides : Option UInt32 := none
  diceRolled : Option UInt32 := none
  diceKept : Option UInt32 := none
deriving DecidableEq, Repr

namespace AbilityRequest

def size (request : AbilityRequest) (s : Settings) : Nat :=
  (request.arraySize.getD s.arraySize).toNat

/-- The formula of one score, by the request or else by the settings. -/
def formula (request : AbilityRequest) (s : Settings) : Formula where
  action := .roll
  sides := request.sides.getD s.sides
  count := request.diceRolled.getD s.diceRolled
  keep := some ⟨.highest, request.diceKept.getD s.diceKept⟩
  modifier := none

def rollScore (request : AbilityRequest) (s : Settings) (options : RollOptions) : RollM Pool := do
  let pool ← Pool.roll (request.sides.getD s.sides) (request.diceRolled.getD s.diceRolled) options
  RollM.lift (pool.keep .highest (some (request.diceKept.getD s.diceKept)))

def rollArray (request : AbilityRequest) (s : Settings) (options : RollOptions) :
    RollM (List Pool) :=
  RollM.times (request.size s) (request.rollScore s options)

def rollTotals (request : AbilityRequest) (s : Settings) (options : RollOptions) :
    RollM (List Int32) :=
  List.map Pool.total <$> request.rollArray s options

end AbilityRequest

end DiceCup
