import DiceCup.Die.Basic
import DiceCup.Figure

/-!
# Pools — dice of one size rolled together

A pool keeps its dice in the order rolled and adds a bonus to the dice that count.  A roll is turned
down when its total could exceed the signed 32-bit range, so that no later selection, reroll or
change of the bonus can make a total overflow.
-/

namespace DiceCup

structure RollOptions where
  technique : Option Technique := none
  bonus : Option Int32 := none
  appearance : Appearance := {}
deriving DecidableEq, Repr

namespace RollOptions

def withBonus (options : RollOptions) (bonus : Figure) : Except RollError RollOptions := do
  let bonus ← bonus.int32 "bonus"
  return { options with bonus := some bonus }

def withDamageType (options : RollOptions) (damageType : String) : RollOptions :=
  { options with appearance := { options.appearance with damageType := some damageType } }

end RollOptions

structure Pool where
  sides : UInt32
  dice : List Die
  bonus : Int32
  technique : Option Technique
  appearance : Appearance
deriving DecidableEq, Repr

/-- Every total of that many dice and that bonus stays below `2 ^ 31`. -/
def TotalFits (sides count : UInt32) (bonus : Int32) : Prop :=
  count.toNat * sides.toNat + max bonus.toInt 0 ≤ RollError.mostTotal

instance (sides count : UInt32) (bonus : Int32) : Decidable (TotalFits sides count bonus) :=
  inferInstanceAs (Decidable (_ ≤ _))

def checkShape (sides count : UInt32) (bonus : Int32) : Except RollError Unit :=
  if count = 0 then .error (.notPositive "number of dice" 0)
  else if TotalFits sides count bonus then .ok ()
  else .error (.totalOutOfRange sides count bonus)

namespace Pool

/-! ## 1. Rolling -/

def roll (sides count : UInt32) (options : RollOptions) : RollM Pool := do
  let bonus := options.bonus.getD 0
  RollM.lift (checkShape sides count bonus)
  let dice ← RollM.times count.toNat (Die.roll sides options.technique options.appearance)
  return { sides, dice, bonus, technique := options.technique, appearance := options.appearance }

def rollTotal (sides count : UInt32) (options : RollOptions) : RollM Int32 := do
  let bonus := options.bonus.getD 0
  RollM.lift (checkShape sides count bonus)
  let sum ← RollM.foldTimes (fun sum (value : UInt32) => sum + value.toInt32) 0 count.toNat
    (Cup.roll sides options.technique)
  return sum + bonus

/-- Rolls dice again one after the other, up to the first that has no sides.  That die and the dice
behind it stay as they are. -/
def rerollDice : List Die → Cup → Except RollError Unit × List Die × Cup
  | [], cup => (.ok (), [], cup)
  | die :: rest, cup =>
    match die.reroll.runOn cup with
    | (.error e, cup) => (.error e, die :: rest, cup)
    | (.ok die, cup) =>
      let (result, rest, cup) := rerollDice rest cup
      (result, { die with included := true } :: rest, cup)

def rerollAll (pool : Pool) (cup : Cup) : Except RollError Unit × Pool × Cup :=
  let (result, dice, cup) := rerollDice pool.dice cup
  (result, { pool with dice }, cup)

/-! ## 2. Looking -/

def count (pool : Pool) : UInt32 := pool.dice.length.toUInt32

def values (pool : Pool) : List UInt32 := pool.dice.map Die.value

def kept (pool : Pool) : List Die := pool.dice.filter Die.included

def total (pool : Pool) : Int32 :=
  pool.kept.foldl (fun sum die => sum + die.value.toInt32) 0 + pool.bonus

/-- A bonus with its sign, behind a blank; nothing for zero. -/
def bonusText (bonus : Int32) : List Char :=
  if bonus = 0 then []
  else (if 0 < bonus then " +" else " ").toList ++ Text.intDigits bonus.toInt

/-- For instance `4d6: [3, 1, (1), 2] +2 = 8`. -/
def text (pool : Pool) : String :=
  String.ofList (Text.toDigits pool.count.toNat ++ 'd' :: Text.toDigits pool.sides.toNat ++
    ": [".toList ++ ((pool.dice.map Die.text).intersperse ", ".toList).flatten ++
    ']' :: bonusText pool.bonus ++ " = ".toList ++ Text.intDigits pool.total.toInt)

/-! ## 3. Changing -/

def setBonus (pool : Pool) (bonus : Figure) : Except RollError Pool := do
  let bonus ← bonus.int32 "bonus"
  checkShape pool.sides pool.count bonus
  return { pool with bonus }

end Pool

end DiceCup
