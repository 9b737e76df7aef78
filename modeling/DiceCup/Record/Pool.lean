import DiceCup.Formula.Roll
import DiceCup.Json.Decode

/-!
# Techniques, dice, pools and outcomes as JSON

A technique is its name as a string, read with hyphens or underscores.  Nothing checks the values
that are read: a die may show more than its sides, a pool may be empty.  An outcome is read as a
pool if it can be, and else as a plain total; it is taken in as a whole, so everything in it must be
readable, also what no field asks for.
-/

namespace DiceCup

namespace Technique

def toJson (t : Technique) : Json := .ofString t.name

def jsonNames : List (String × Technique) :=
  [("secure", .secure), ("seeded-global", .seededGlobal), ("seeded_global", .seededGlobal),
   ("seeded-instance", .seededInstance), ("seeded_instance", .seededInstance),
   ("random-each-call", .randomEachCall), ("random_each_call", .randomEachCall)]

def ofJson? : Json.Decoder Technique := Json.choice? jsonNames

theorem ofJson?_toJson (t : Technique) : ofJson? t.toJson = some t := by cases t <;> rfl

end Technique

namespace Appearance

def toJson (a : Appearance) : Json :=
  .ofFields [("foreground_color", .ofString a.foreground),
    ("background_color", .ofString a.background), ("damage_type", .ofOption .ofString a.damageType)]

def ofJson? : Json.Decoder Appearance := fun v => do
  let f ← Json.Fields.ofJson? ["foreground_color", "background_color", "damage_type"] v
  let foreground ← f.required "foreground_color" Json.string?
  let background ← f.required "background_color" Json.string?
  let damageType ← f.optional "damage_type" Json.string?
  return { foreground, background, damageType }

end Appearance

namespace Die

def toJson (die : Die) : Json :=
  .ofFields [("sides", .ofNat die.sides.toNat), ("value", .ofNat die.value.toNat),
    ("included", .bool die.included), ("technique", .ofOption Technique.toJson die.technique),
    ("metadata", die.appearance.toJson)]

def ofJson? : Json.Decoder Die := fun v => do
  let f ← Json.Fields.ofJson? ["sides", "value", "included", "technique", "metadata"] v
  let sides ← f.required "sides" Json.uint32?
  let value ← f.required "value" Json.uint32?
  let included ← f.required "included" Json.bool?
  let technique ← f.optional "technique" Technique.ofJson?
  let appearance ← f.required "metadata" Appearance.ofJson?
  return { sides, value, included, technique, appearance }

end Die

namespace Pool

def toJson (pool : Pool) : Json :=
  .ofFields [("sides", .ofNat pool.sides.toNat), ("dice", .array (pool.dice.map Die.toJson)),
    ("bonus", .ofInt pool.bonus.toInt), ("technique", .ofOption Technique.toJson pool.technique),
    ("metadata", pool.appearance.toJson)]

def ofJson? : Json.Decoder Pool := fun v => do
  let f ← Json.Fields.ofJson? ["sides", "dice", "bonus", "technique", "metadata"] v
  let sides ← f.required "sides" Json.uint32?
  let dice ← f.required "dice" (Json.list? Die.ofJson?)
  let bonus ← f.required "bonus" Json.int32?
  let technique ← f.optional "technique" Technique.ofJson?
  let appearance ← f.required "metadata" Appearance.ofJson?
  return { sides, dice, bonus, technique, appearance }

end Pool

namespace Outcome

def toJson : Outcome → Json
  | .dice pool => pool.toJson
  | .total sum => .ofInt sum.toInt

def ofJson? : Json.Decoder Outcome := fun v =>
  if v.readable Json.mostDepth then
    match Pool.ofJson? v with
    | some pool => some (.dice pool)
    | none => v.int32?.map .total
  else none

end Outcome

end DiceCup
