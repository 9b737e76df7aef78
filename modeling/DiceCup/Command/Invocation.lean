import DiceCup.AbilityScores
import DiceCup.Command.Arguments

/-!
# Invocations — what a command line asks for

A command line has general options, the name of a command and the command's own options and words.
`Invocation.ofArguments?` reads it, or gives nothing if any part of it is unknown, missing,
repeated or does not convert.
-/

namespace DiceCup

inductive Command where
  /-- Rolls an identifier a number of times. -/
  | call (identifier : String) (bonus damageType : Option String) (repeats : Nat)
  | abilities (request : AbilityRequest)
  /-- Shows the settings or saves them in a file. -/
  | settings (saveTo : Option String)
deriving DecidableEq, Repr

structure Invocation where
  settingsFile : Option String
  technique : Option Technique
  seed : Option UInt64
  json : Bool
  command : Command
deriving DecidableEq, Repr

/-! ## 1. Values of options -/

namespace Arguments

def text (value : String) : Option String := some value

def path? (value : String) : Option String := if value = "" then none else some value

/-- A numeral, perhaps behind a plus sign, below `2 ^ 64`. -/
def natural? (value : String) : Option Nat :=
  let digits := match value.toList with
    | '+' :: cs => cs
    | cs => cs
  (Text.wholeNat digits).filter fun n => Width.inUInt64 n

def seed? (value : String) : Option UInt64 := (natural? value).map Nat.toUInt64

def uint32? (value : String) : Option UInt32 := (Text.wholeInt value.toList).bind Width.uint32?

end Arguments

/-! ## 2. Commands -/

namespace Command

/-- A bonus may be negative, so any next argument is its value. -/
def callOptions : List KnownOption :=
  [{ name := "bonus", letter := some 'b', takes := .anything }, { name := "damage-type" },
   { name := "repeat", letter := some 'n' }]

def ofCallArguments? (arguments : List String) : Option Command := do
  let given ← Arguments.ofList? callOptions false arguments
  let bonus ← given.value? "bonus" Arguments.text
  let damageType ← given.value? "damage-type" Arguments.text
  let repeats ← given.value? "repeat" Arguments.natural?
  match given.words with
  | [identifier] => some (.call identifier bonus damageType (repeats.getD 1))
  | _ => none

def abilitiesOptions : List KnownOption :=
  [{ name := "size" }, { name := "sides" }, { name := "rolled" }, { name := "kept" }]

def ofAbilitiesArguments? (arguments : List String) : Option Command := do
  let given ← Arguments.ofList? abilitiesOptions false arguments
  let arraySize ← given.value? "size" Arguments.uint32?
  let sides ← given.value? "sides" Arguments.uint32?
  let diceRolled ← given.value? "rolled" Arguments.uint32?
  let diceKept ← given.value? "kept" Arguments.uint32?
  if given.words = [] then some (.abilities { arraySize, sides, diceRolled, diceKept }) else none

def settingsOptions : List KnownOption := [{ name := "save" }]

def ofSettingsArguments? (arguments : List String) : Option Command := do
  let given ← Arguments.ofList? settingsOptions false arguments
  let saveTo ← given.value? "save" Arguments.path?
  if given.words = [] then some (.settings saveTo) else none

def readers : List (String × (List String → Option Command)) :=
  [("call", ofCallArguments?), ("abilities", ofAbilitiesArguments?),
   ("config", ofSettingsArguments?)]

def ofArguments? : List String → Option Command
  | [] => none
  | name :: arguments => (readers.lookup name).bind (· arguments)

end Command

/-! ## 3. Whole command lines -/

namespace Invocation

def options : List KnownOption :=
  [{ name := "config", letter := some 'c' }, { name := "technique", letter := some 't' },
   { name := "seed" }, { name := "json", takes := .nothing }]

def ofArguments? (arguments : List String) : Option Invocation := do
  let given ← Arguments.ofList? options true arguments
  let settingsFile ← given.value? "config" Arguments.path?
  let technique ← given.value? "technique" Technique.ofName?
  let seed ← given.value? "seed" Arguments.seed?
  let command ← Command.ofArguments? given.words
  return { settingsFile, technique, seed, json := given.isGiven "json", command }

end Invocation

end DiceCup
