import DiceCup.Settings.Basic

/-!
# Fields — what a change of the settings is about

A change names a field and something that the field is to become.  That is converted first, without
a look at the settings, and then written down if the settings admit it.
-/

namespace DiceCup

namespace Settings

inductive Field where
  | technique
  | interval
  | arraySize
  | sides
  | diceRolled
  | diceKept
  | foreground
  | background
deriving DecidableEq, Repr

inductive FieldValue where
  | technique (t : Technique)
  /-- An interval by its number of rolls. -/
  | rolls (n : Option UInt32)
  | number (n : UInt32)
  | color (c : String)
deriving DecidableEq, Repr

def Field.Takes : Field → FieldValue → Prop
  | .technique, .technique _ => True
  | .interval, .rolls n => n ≠ some 0
  | .arraySize, .number n | .sides, .number n | .diceRolled, .number n | .diceKept, .number n =>
    n ≠ 0
  | .foreground, .color _ | .background, .color _ => True
  | _, _ => False

def get (s : Settings) : Field → FieldValue
  | .technique => .technique s.technique
  | .interval => .rolls (s.interval.map Interval.rolls)
  | .arraySize => .number s.arraySize
  | .sides => .number s.sides
  | .diceRolled => .number s.diceRolled
  | .diceKept => .number s.diceKept
  | .foreground => .color s.foreground
  | .background => .color s.background

def put (s : Settings) : Field → FieldValue → Settings
  | .technique, .technique t => { s with technique := t }
  | .interval, .rolls n => { s with interval := n.bind Interval.ofRolls? }
  | .arraySize, .number n => { s with arraySize := n }
  | .sides, .number n => { s with sides := n }
  | .diceRolled, .number n => { s with diceRolled := n }
  | .diceKept, .number n => { s with diceKept := n }
  | .foreground, .color c => { s with foreground := c }
  | .background, .color c => { s with background := c }
  | _, _ => s

namespace Change

def field : Change → Field
  | .technique _ | .techniqueName _ => .technique
  | .interval _ | .noInterval => .interval
  | .arraySize _ => .arraySize
  | .sides _ => .sides
  | .diceRolled _ => .diceRolled
  | .diceKept _ => .diceKept
  | .foreground _ => .foreground
  | .background _ => .background

def value : Change → Except RollError FieldValue
  | .technique t => .ok (.technique t)
  | .techniqueName name => (Technique.ofName name).map .technique
  | .interval rolls => (rolls.positive "reseed_interval").map fun n => .rolls (some n)
  | .noInterval => .ok (.rolls none)
  | .arraySize n => (n.positive "ability_score_array_size").map .number
  | .sides n => (n.positive "ability_score_sides").map .number
  | .diceRolled n => (n.positive "ability_score_dice_rolled").map .number
  | .diceKept n => (n.positive "ability_score_dice_kept").map .number
  | .foreground color => .ok (.color color)
  | .background color => .ok (.color color)

end Change

/-- The settings after changes one after the other, some of which may be turned down. -/
def after (s : Settings) (changes : List Change) : Settings := changes.foldl attempt s

/-- The settings after changes one after the other, all of which have to go through. -/
def changeAll (s : Settings) (changes : List Change) : Except RollError Settings :=
  changes.foldlM change s

end Settings

end DiceCup
