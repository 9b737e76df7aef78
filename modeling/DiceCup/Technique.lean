import DiceCup.Text.Characters

/-!
# Techniques — where the randomness of a roll comes from

`secure` draws from the outside world, the two seeded techniques from generators that a seed
repeats, and `randomEachCall` chooses one of the three anew for every roll.
-/

namespace DiceCup

inductive Technique where
  | secure
  | seededGlobal
  | seededInstance
  | randomEachCall
deriving DecidableEq, Repr

namespace Technique

def standard : Technique := .seededInstance

def all : List Technique := [.secure, .seededGlobal, .seededInstance, .randomEachCall]

def name : Technique → String
  | .secure => "secure"
  | .seededGlobal => "seeded-global"
  | .seededInstance => "seeded-instance"
  | .randomEachCall => "random-each-call"

/-- All techniques but the secure one have a seed to report. -/
def isSeedable (t : Technique) : Bool := t ≠ .secure

/-- A name as it is compared: without blanks at the ends, in lower case (ASCII letters only), and
with hyphens for underscores. -/
def normalName (cs : List Char) : List Char :=
  (Text.trim cs).map fun c => if c = '_' then '-' else c.toLower

def ofName? (name : String) : Option Technique :=
  all.find? fun t => t.name.toList = normalName name.toList

end Technique

end DiceCup
