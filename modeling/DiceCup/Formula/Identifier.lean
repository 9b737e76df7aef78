import DiceCup.Formula.Basic
import DiceCup.Text.Words

/-!
# Identifiers — formulas as names

A formula can be written as one word, such as `total_d20_with_advantage_plus3`: an action, `_`, an
optional number of dice, `d`, the number of sides, and, each behind another `_`, an optional keep
clause and an optional modifier.  `Formula.ofIdentifier?` reads such a word and fills in what it
leaves out; `Formula.identifier` writes one with nothing left out; `Spelling` lists the choices
that a writer has, and `Spelling.meaning` the formula that they stand for.
-/

namespace DiceCup

namespace Formula

open Text

/-! ## 1. The words and the limits of the numerals -/

def actionWords : List (String × Action) := [("roll", .roll), ("total", .total)]

def keepWords : List (String × KeepMode) :=
  [("with_advantage", .highest), ("highest", .highest),
   ("with_disadvantage", .lowest), ("lowest", .lowest)]

/-- The signs of a modifier; the long word of each comes before its abbreviation. -/
def signWords : List (String × Int) := [("plus", 1), ("p", 1), ("minus", -1), ("m", -1)]

def mostCount : Nat := 0xFFFFFFFF

def mostModifier : Nat := 0x7FFFFFFF

/-- The number of dice where none is given: a keep clause needs a choice, so it rolls two. -/
def defaultCount (keeps : Bool) : UInt32 := if keeps then 2 else 1

/-! ## 2. Reading -/

def readCount : Reader UInt32 := fun cs =>
  (readNatUpTo mostCount cs).map fun (n, rest) => (n.toUInt32, rest)

def readKeep : Reader (KeepMode × Option UInt32) := fun cs => do
  let (mode, cs) ← readWord keepWords cs
  let (count, cs) := readOptional readCount cs
  return ((mode, count), cs)

def readModifier : Reader Int32 := fun cs => do
  let (sign, cs) ← readWord signWords cs
  let (amount, cs) ← readNatUpTo mostModifier cs
  return (Int32.ofInt (sign * amount), cs)

def readFormula : Reader Formula := fun cs => do
  let (action, cs) ← readWord actionWords cs
  let cs ← stripLead ['_'] cs
  let (count, cs) := readOptional readCount cs
  let (sides, cs) ← readAfter 'd' readCount cs
  let (keep, cs) := readOptional (readAfter '_' readKeep) cs
  let (modifier, cs) := readOptional (readAfter '_' readModifier) cs
  let count := count.getD (defaultCount keep.isSome)
  let keep := keep.map fun (mode, kept) => ⟨mode, kept.getD (defaultKeep count)⟩
  return (⟨action, sides, count, keep, modifier⟩, cs)

/-- The formula that an identifier stands for; no identifier has anything before or behind it. -/
def ofIdentifier? (identifier : String) : Option Formula :=
  match readFormula identifier.toList with
  | some (formula, []) => some formula
  | _ => none

/-! ## 3. Writing -/

def actionWord : Action → String
  | .roll => "roll"
  | .total => "total"

def keepWord : KeepMode → String
  | .highest => "highest"
  | .lowest => "lowest"

def writeKeep : Option Keep → List Char
  | none => []
  | some keep => '_' :: (keepWord keep.mode).toList ++ toDigits keep.count.toNat

def writeModifier : Option Int32 → List Char
  | none => []
  | some m => '_' :: (if 0 ≤ m then "plus" else "minus").toList ++ toDigits m.toInt.natAbs

/-- The identifier that leaves nothing out, such as `roll_3d20_highest2_plus6`. -/
def identifier (f : Formula) : String :=
  String.ofList ((actionWord f.action).toList ++ '_' :: toDigits f.count.toNat ++
    'd' :: toDigits f.sides.toNat ++ writeKeep f.keep ++ writeModifier f.modifier)

/-! ## 4. Spellings -/

structure Numeral where
  digits : List Char
  nonempty : digits ≠ []
  decimal : ∀ c ∈ digits, c.isDigit = true

def Numeral.value (n : Numeral) : Nat := digitsValue n.digits

/-- The choices behind one way of writing a formula. -/
structure Spelling where
  action : Action
  count : Option Numeral
  sides : Numeral
  keep : Option (String × KeepMode × Option Numeral)
  modifier : Option (String × Int × Numeral)

namespace Spelling

def numeralText : Option Numeral → List Char
  | none => []
  | some n => n.digits

def text (s : Spelling) : List Char :=
  (actionWord s.action).toList ++ '_' :: numeralText s.count ++ 'd' :: s.sides.digits ++
    (match s.keep with
      | none => []
      | some (word, _, kept) => '_' :: word.toList ++ numeralText kept) ++
    (match s.modifier with
      | none => []
      | some (word, _, amount) => '_' :: word.toList ++ amount.digits)

/-- The words come from the tables and the numerals keep to their limits. -/
def Admissible (s : Spelling) : Prop :=
  (∀ n ∈ s.count, n.value ≤ mostCount) ∧ s.sides.value ≤ mostCount ∧
    (∀ k ∈ s.keep, (k.1, k.2.1) ∈ keepWords ∧ ∀ n ∈ k.2.2, n.value ≤ mostCount) ∧
    ∀ m ∈ s.modifier, (m.1, m.2.1) ∈ signWords ∧ m.2.2.value ≤ mostModifier

def diceCount (s : Spelling) : UInt32 :=
  match s.count with
  | some n => n.value.toUInt32
  | none => defaultCount s.keep.isSome

def meaning (s : Spelling) : Formula where
  action := s.action
  sides := s.sides.value.toUInt32
  count := s.diceCount
  keep := s.keep.map fun (_, mode, kept) =>
    ⟨mode, (kept.map fun n => n.value.toUInt32).getD (defaultKeep s.diceCount)⟩
  modifier := s.modifier.map fun (_, sign, amount) => Int32.ofInt (sign * amount.value)

end Spelling

end Formula

end DiceCup
