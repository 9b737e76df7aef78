import DiceCup.Pool.Selection
import DiceCup.Text.Digits

/-!
# Formulas — fully spelled out roll requests

A formula says how many dice of which size are rolled, which of them are kept, what is added to
them, and whether the dice themselves or only their total are wanted.  `Formula.describe` is its
one-line text.
-/

namespace DiceCup

inductive Action where
  /-- The rolled dice are the outcome. -/
  | roll
  /-- Only the total is the outcome. -/
  | total
deriving DecidableEq, Repr

structure Formula where
  action : Action
  sides : UInt32
  count : UInt32
  keep : Option Keep
  modifier : Option Int32
deriving DecidableEq, Repr

namespace Formula

def describeKeep : Option Keep → List Char
  | none => []
  | some ⟨.highest, n⟩ => " keep highest ".toList ++ Text.toDigits n.toNat
  | some ⟨.lowest, n⟩ => " keep lowest ".toList ++ Text.toDigits n.toNat

/-- The modifier with its sign, behind a blank.  Zero is written, an absent modifier is not. -/
def describeModifier : Option Int32 → List Char
  | none => []
  | some m => (if 0 ≤ m then " +" else " ").toList ++ Text.intDigits m.toInt

def describeAction : Action → List Char
  | .roll => []
  | .total => " (total)".toList

/-- For instance `3d20 keep highest 2 +6 (total)`. -/
def describe (f : Formula) : String :=
  String.ofList (Text.toDigits f.count.toNat ++ 'd' :: Text.toDigits f.sides.toNat ++
    describeKeep f.keep ++ describeModifier f.modifier ++ describeAction f.action)

end Formula

end DiceCup
