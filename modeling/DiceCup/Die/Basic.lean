import DiceCup.Cup.Roll

/-!
# Dice — one rolled die

A die is rolled when it is made and counts until a selection excludes it.  Its appearance is carried
along for whoever shows it and never looked at.
-/

namespace DiceCup

structure Appearance where
  foreground : String := "#DDDDDD"
  background : String := "#0000DD"
  damageType : Option String := none
deriving DecidableEq, Repr

structure Die where
  sides : UInt32
  value : UInt32
  included : Bool
  technique : Option Technique
  appearance : Appearance
deriving DecidableEq, Repr

namespace Die

def roll (sides : UInt32) (technique : Option Technique) (appearance : Appearance) : RollM Die := do
  let value ← Cup.roll sides technique
  return { sides, value, included := true, technique, appearance }

/-- The die with a new value; whether it counts stays as it is. -/
def reroll (die : Die) : RollM Die := do
  let value ← Cup.roll die.sides die.technique
  return { die with value }

def compareByValue (a b : Die) : Ordering := compare a.value b.value

/-- The value, in parentheses if the die does not count. -/
def text (die : Die) : List Char :=
  let value := Text.toDigits die.value.toNat
  if die.included then value else '(' :: value ++ [')']

end Die

end DiceCup
