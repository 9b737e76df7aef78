import DiceCup.Pool.Basic

/-!
# Settings — shared defaults of cups and ability scores

Settings start from their defaults or from a saved text, and change by one field at a time.  A
change converts its value and is turned down if that fails or if more dice would be kept than
rolled, so settings stay valid whatever is done to them.
-/

namespace DiceCup

structure Settings where
  technique : Technique := .standard
  interval : Option Interval := none
  arraySize : UInt32 := 6
  sides : UInt32 := 6
  diceRolled : UInt32 := 4
  diceKept : UInt32 := 3
  foreground : String := ({} : Appearance).foreground
  background : String := ({} : Appearance).background
deriving DecidableEq, Repr

namespace Settings

/-- What every reachable value of the settings satisfies. -/
def Valid (s : Settings) : Prop :=
  1 ≤ s.arraySize ∧ 1 ≤ s.sides ∧ 1 ≤ s.diceRolled ∧ 1 ≤ s.diceKept ∧ s.diceKept ≤ s.diceRolled

instance (s : Settings) : Decidable s.Valid := inferInstanceAs (Decidable (_ ∧ _))

def checkPositive (what : String) (n : UInt32) : Except RollError Unit := do
  let _ ← (Figure.whole n.toNat).positive what

def checkKept (kept rolled : UInt32) : Except RollError Unit :=
  if rolled < kept then .error (.keptExceedsRolled kept rolled) else .ok ()

/-- Checks the fields in order, then the two numbers of dice against each other. -/
def validate (s : Settings) : Except RollError Unit := do
  checkPositive "ability_score_array_size" s.arraySize
  checkPositive "ability_score_sides" s.sides
  checkPositive "ability_score_dice_rolled" s.diceRolled
  checkPositive "ability_score_dice_kept" s.diceKept
  checkKept s.diceKept s.diceRolled

inductive Change where
  | technique (t : Technique)
  | techniqueName (name : String)
  | interval (rolls : Figure)
  | noInterval
  | arraySize (n : Figure)
  | sides (n : Figure)
  | diceRolled (n : Figure)
  | diceKept (n : Figure)
  | foreground (color : String)
  | background (color : String)

def change (s : Settings) : Change → Except RollError Settings
  | .technique t => .ok { s with technique := t }
  | .techniqueName name => do
    let t ← Technique.ofName name
    return { s with technique := t }
  | .interval rolls => do
    let rolls ← rolls.positive "reseed_interval"
    return { s with interval := Interval.ofRolls? rolls }
  | .noInterval => .ok { s with interval := none }
  | .arraySize n => do
    let arraySize ← n.positive "ability_score_array_size"
    return { s with arraySize }
  | .sides n => do
    let sides ← n.positive "ability_score_sides"
    return { s with sides }
  | .diceRolled n => do
    let diceRolled ← n.positive "ability_score_dice_rolled"
    checkKept s.diceKept diceRolled
    return { s with diceRolled }
  | .diceKept n => do
    let diceKept ← n.positive "ability_score_dice_kept"
    checkKept diceKept s.diceRolled
    return { s with diceKept }
  | .foreground color => .ok { s with foreground := color }
  | .background color => .ok { s with background := color }

def attempt (s : Settings) (c : Change) : Settings :=
  match s.change c with
  | .ok s => s
  | .error _ => s

def appearance (s : Settings) : Appearance :=
  { foreground := s.foreground, background := s.background }

def rollOptions (s : Settings) : RollOptions := { appearance := s.appearance }

end Settings

namespace Cup

/-- Takes over technique and interval; generators and count stay. -/
def applySettings (cup : Cup) (s : Settings) : Cup :=
  { cup with technique := s.technique, interval := s.interval }

def ofSettings (s : Settings) (entropy : Random.Entropy) : Cup :=
  (Cup.fresh entropy).applySettings s

end Cup

end DiceCup
